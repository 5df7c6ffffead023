import GpuLedger.Proofs.Effects
import GpuLedger.Proofs.Session

/-!
# Ledgers That Run Out of Bookings

A ledger may be kept by a registry that takes a number of bookings and then refuses
(`Ledger.commitsLeft`). This module compares a run under such a limit with the run without one.
The run without a limit has its postings (`Ledger.booked`), and the run under a limit follows it
booking by booking: as long as the limit is not reached both stand on the same node, so both
choose the same devices; where it is reached nothing that has been booked is taken back.
`Ledger.cutOff` reads the limited outcome off the other one.

The comparison needs that the limit is the only cause for which a booking can fail, which it is:
devices are chosen from the node, so there is always the device that is booked
(`Policy.isSome_device?_of_mem_choose`).

## Main results

* `Ledger.cutOff_append` — a limit spent on one list of entries and then on another;
* `Ledger.placeAll_limited` — placing a workload under a limit;
* `limited_ledger_books_prefix` — what is booked under a limit is a prefix of what is booked
  without one, and the outcome is the same if it is all of it.
-/

namespace GpuLedger

/-! ### Booking a list of entries -/

namespace Node

/-- Books several entries one after the other. The first that cannot be booked ends it. -/
def bookEach (es : List Entry) (n : Node) : Except Error Node :=
  es.foldlM (fun n e => n.book e.device e.amount) n

/-- Entries of two lists are booked one list after the other. -/
theorem postAll_append (es fs : List Entry) (n : Node) :
    n.postAll (es ++ fs) = (n.postAll es).postAll fs :=
  List.foldl_append

/-- Booking makes no device and loses none. -/
theorem isSome_device?_post (e : Entry) (n : Node) (id : DeviceId) :
    ((n.post e).device? id).isSome = (n.device? id).isSome := by
  rw [post, device?_mapFirst (Device.id_apply Device.id_book e), Option.isSome_map]

/-- Entries for which there are devices are all booked. -/
theorem bookEach_eq_ok {es : List Entry} {n : Node}
    (h : ∀ e ∈ es, (n.device? e.device).isSome) : n.bookEach es = .ok (n.postAll es) := by
  induction es generalizing n with
  | nil => rfl
  | cons e rest ih =>
      have hrest : ∀ f ∈ rest, ((n.post e).device? f.device).isSome := fun f hf => by
        rw [isSome_device?_post]
        exact h f (List.mem_cons_of_mem _ hf)
      have hfirst : n.book e.device e.amount = .ok (n.post e) := by
        rw [book_eq, if_pos (h e List.mem_cons_self)]
      rw [bookEach, List.foldlM_cons, hfirst, postAll_cons, ← ih hrest]
      rfl

end Node

/-- There is a device for every number that is chosen. -/
theorem Policy.isSome_device?_of_mem_choose {policy : Policy} {n : Node} {r : Request}
    {id : DeviceId} (h : id ∈ (policy.choose n.devices r).map Device.id) :
    (n.device? id).isSome := by
  obtain ⟨d, hd, rfl⟩ := List.mem_map.mp h
  exact List.find?_isSome.mpr ⟨d, mem_of_mem_choose hd, by simp⟩

namespace Ledger

/-! ### Without a limit -/

/-- A booking for which there is a device goes through until bookings have run out. -/
theorem book_eq_ok {n : Node} {left : Option Nat} {e : Entry} (h : (n.device? e.device).isSome)
    (hleft : left ≠ some 0) :
    book ⟨n, left⟩ e.device e.amount = .ok ⟨n.post e, left.map (· - 1)⟩ := by
  have hpost : n.book e.device e.amount = .ok (n.post e) := by rw [Node.book_eq, if_pos h]
  simp only [book, hpost]
  rfl

/-- A booking that goes through takes one from what is left. -/
theorem commitsLeft_of_book {l next : Ledger} {id : DeviceId} {a : Amount}
    (h : l.book id a = .ok next) : next.commitsLeft = l.commitsLeft.map (· - 1) := by
  rw [book] at h
  split at h
  · cases h
  · cases hbook : l.node.book id a with
    | error e =>
        rw [hbook] at h
        cases h
    | ok n =>
        rw [hbook] at h
        rw [← Except.ok.inj h]

/-- Every booking takes one from what is left. -/
theorem Posts.commitsLeft_eq {P : Node → Entry → Prop} {l last : Ledger} {es : List Entry}
    (h : Posts P l es last) : last.commitsLeft = l.commitsLeft.map (· - es.length) := by
  induction h with
  | nil l => exact Option.map_id'.symm
  | @cons l next last e es _ hbook _ ih =>
      rw [ih, commitsLeft_of_book hbook, Option.map_map]
      refine Option.map_congr fun left _ => ?_
      rw [Function.comp_apply, List.length_cons]
      omega

/-- A ledger without a limit keeps having none. -/
theorem Posts.eq_of_unlimited {P : Node → Entry → Prop} {l last : Ledger} {es : List Entry}
    (h : Posts P l es last) (hl : l.commitsLeft = none) :
    last = ⟨l.node.postAll es, none⟩ := by
  have hnone : last.commitsLeft = none := by rw [h.commitsLeft_eq, hl, Option.map_none]
  rw [← h.node_eq, ← hnone]

/-- Without a limit one amount is booked on several devices in turn, if all of them are there. -/
theorem bookAll_unlimited {a : Amount} {ids : List DeviceId} {n : Node}
    (h : ∀ id ∈ ids, (n.device? id).isSome) :
    bookAll a ids ⟨n, none⟩ = ⟨⟨n.postAll (ids.map (⟨·, a⟩)), none⟩, .ok ()⟩ := by
  induction ids generalizing n with
  | nil => rfl
  | cons id rest ih =>
      have hrest : ∀ id' ∈ rest, ((n.post ⟨id, a⟩).device? id').isSome := fun id' hid' => by
        rw [Node.isSome_device?_post]
        exact h id' (List.mem_cons_of_mem _ hid')
      have hfirst : book ⟨n, none⟩ id a = .ok ⟨n.post ⟨id, a⟩, none⟩ :=
        book_eq_ok (e := ⟨id, a⟩) (h id List.mem_cons_self) (Option.some_ne_none 0).symm
      rw [bookAll, hfirst]
      exact ih hrest

/-- **Without a limit** placing a container for which there is a request fails exactly if no device
is chosen, and otherwise books its amount on all chosen devices. -/
theorem placeOne_unlimited {policy : Policy} {w : Workload} {index : Nat} {c : Container}
    {r : Request} {n : Node} {ds : List Device} (hr : w.request index c = .ok r)
    (hds : policy.choose n.devices r = ds) :
    placeOne policy w index c ⟨n, none⟩ =
      if ds = [] then ⟨⟨n, none⟩, .error (.noFeasibleDevice c.name)⟩
      else ⟨⟨n.postAll (ds.map (⟨·.id, r.amount n.quota⟩)), none⟩,
        .ok ⟨index, c.name, r.mode, ds.map Device.id, (r.amount n.quota).vcore,
          (r.amount n.quota).vmemory⟩⟩ := by
  have hids : ∀ id ∈ ds.map Device.id, (n.device? id).isSome :=
    fun id hid => Policy.isSome_device?_of_mem_choose (hds ▸ hid)
  simp only [placeOne, hr, hds]
  cases ds with
  | nil => rfl
  | cons d rest =>
      rw [List.map_cons] at hids ⊢
      simp only [bookAll_unlimited hids, if_neg (List.cons_ne_nil d rest), List.map_cons,
        List.map_map]
      rfl

/-! ### Under a limit -/

section Limits

variable {α β : Type}

/-- What booking entries on a node comes to where only a number of bookings is taken. If they
are enough, this is the outcome without a limit; otherwise as many entries have been booked as
could be, and nothing more has happened. -/
def cutOff (left : Nat) (n : Node) (es : List Entry) (o : Outcome Ledger Error α) :
    Outcome Ledger Error α :=
  if es.length ≤ left then ⟨⟨o.state.node, some (left - es.length)⟩, o.result⟩
  else ⟨⟨n.postAll (es.take left), some 0⟩, .error (.internal "registry unavailable")⟩

/-- A limit that allows for all entries loses as many. -/
theorem cutOff_of_le {left : Nat} {es : List Entry} (h : es.length ≤ left) (n : Node)
    (o : Outcome Ledger Error α) :
    cutOff left n es o = ⟨⟨o.state.node, some (left - es.length)⟩, o.result⟩ :=
  if_pos h

/-- A limit that does not is spent on the first entries. -/
theorem cutOff_of_lt {left : Nat} {es : List Entry} (h : left < es.length) (n : Node)
    (o : Outcome Ledger Error α) :
    cutOff left n es o =
      ⟨⟨n.postAll (es.take left), some 0⟩, .error (.internal "registry unavailable")⟩ :=
  if_neg (Nat.not_le.mpr h)

/-- The answer may be changed before or after an outcome is cut off. -/
theorem cutOff_map (f : α → β) (left : Nat) (n : Node) (es : List Entry)
    (o : Outcome Ledger Error α) : (cutOff left n es o).map f = cutOff left n es (o.map f) := by
  rw [cutOff, cutOff]
  split <;> rfl

/-- **A limit is spent** on one list of entries first and then on the next. -/
theorem cutOff_append {left : Nat} {es : List Entry} (h : es.length ≤ left) (n : Node)
    (fs : List Entry) (o : Outcome Ledger Error α) :
    cutOff (left - es.length) (n.postAll es) fs o = cutOff left n (es ++ fs) o := by
  by_cases hfs : fs.length ≤ left - es.length
  · have hall : (es ++ fs).length ≤ left := by rw [List.length_append]; omega
    have hleft : left - es.length - fs.length = left - (es ++ fs).length := by
      rw [List.length_append]; omega
    rw [cutOff_of_le hfs, cutOff_of_le hall, hleft]
  · have hall : left < (es ++ fs).length := by rw [List.length_append]; omega
    have htake : (es ++ fs).take left = es ++ fs.take (left - es.length) := by
      rw [List.take_append, List.take_of_length_le h]
    rw [cutOff_of_lt (Nat.not_le.mp hfs), cutOff_of_lt hall, htake, Node.postAll_append]

/-- A limit that does not go beyond the first entries is not touched by those behind them. -/
theorem cutOff_append_of_lt {left : Nat} {es : List Entry} (h : left < es.length) (n : Node)
    (fs : List Entry) (o : Outcome Ledger Error α) :
    cutOff left n (es ++ fs) o =
      ⟨⟨n.postAll (es.take left), some 0⟩, .error (.internal "registry unavailable")⟩ := by
  have hall : left < (es ++ fs).length := by rw [List.length_append]; omega
  rw [cutOff_of_lt hall, List.take_append_of_le_length h.le]

end Limits

/-- Booking one amount on several devices in turn, all of which there are. -/
theorem bookAll_limited {a : Amount} {ids : List DeviceId} {n : Node}
    (hids : ∀ id ∈ ids, (n.device? id).isSome) (left : Nat) :
    bookAll a ids ⟨n, some left⟩ =
      cutOff left n (bookedAll a ids ⟨n, none⟩) (bookAll a ids ⟨n, none⟩) := by
  induction ids generalizing n left with
  | nil => rfl
  | cons id rest ih =>
      have hdevice : (n.device? (⟨id, a⟩ : Entry).device).isSome := hids id List.mem_cons_self
      have hrest : ∀ id' ∈ rest, ((n.post ⟨id, a⟩).device? id').isSome := fun id' hid' => by
        rw [Node.isSome_device?_post]
        exact hids id' (List.mem_cons_of_mem _ hid')
      have hfree : book ⟨n, none⟩ id a = .ok ⟨n.post ⟨id, a⟩, none⟩ :=
        book_eq_ok hdevice (Option.some_ne_none 0).symm
      rw [bookedAll, bookAll, bookAll]
      simp only [hfree]
      cases left with
      | zero =>
          have hsome : 0 < (⟨id, a⟩ :: bookedAll a rest ⟨n.post ⟨id, a⟩, none⟩).length :=
            Nat.zero_lt_succ _
          exact (cutOff_of_lt hsome n _).symm
      | succ left =>
          have hbook : book ⟨n, some (left + 1)⟩ id a = .ok ⟨n.post ⟨id, a⟩, some left⟩ :=
            book_eq_ok hdevice (by simp)
          have hone : [(⟨id, a⟩ : Entry)].length ≤ left + 1 := Nat.le_add_left 1 left
          simp only [hbook]
          exact (ih hrest left).trans (cutOff_append hone n _ _)

/-- Placing one container. -/
theorem placeOne_limited (policy : Policy) (w : Workload) (index : Nat) (c : Container)
    (n : Node) (left : Nat) :
    placeOne policy w index c ⟨n, some left⟩ =
      cutOff left n (bookedOne policy w index c ⟨n, none⟩)
        (placeOne policy w index c ⟨n, none⟩) := by
  rw [placeOne, placeOne, bookedOne]
  cases w.request index c with
  | error e => rfl
  | ok r =>
      have hids : ∀ id ∈ (policy.choose n.devices r).map Device.id, (n.device? id).isSome :=
        fun id hid => Policy.isSome_device?_of_mem_choose hid
      simp only
      cases hchosen : (policy.choose n.devices r).map Device.id with
      | nil => rfl
      | cons id ids =>
          rw [hchosen] at hids
          simp only [bookAll_limited hids, cutOff_map]

/-- Placing the containers of a workload from an index on. Until the limit is reached both runs
stand on the same node before each container. -/
theorem placeFrom_limited (policy : Policy) (w : Workload) (index : Nat) (cs : List Container)
    (n : Node) (left : Nat) :
    placeFrom policy w index cs ⟨n, some left⟩ =
      cutOff left n (bookedFrom policy w index cs ⟨n, none⟩)
        (placeFrom policy w index cs ⟨n, none⟩) := by
  induction cs generalizing index n left with
  | nil => rfl
  | cons c rest ih =>
      rw [placeFrom, placeFrom, bookedFrom]
      by_cases hgpu : c.RequestsGpu
      · rw [if_pos hgpu, if_pos hgpu, if_pos hgpu, placeOne_limited]
        have hfree := (posts_bookedOne policy w index c ⟨n, none⟩).eq_of_unlimited rfl
        rcases Nat.lt_or_ge left (bookedOne policy w index c ⟨n, none⟩).length with hlt | hle
        · -- The limit is reached within this container; those behind it do not matter.
          rw [cutOff_of_lt hlt, cutOff_append_of_lt hlt]
        · rw [cutOff_of_le hle]
          rcases hplace : placeOne policy w index c ⟨n, none⟩ with ⟨next, e | p⟩
          · rw [List.append_nil, cutOff_of_le hle]
          · rw [hplace] at hfree
            obtain rfl : next = ⟨n.postAll (bookedOne policy w index c ⟨n, none⟩), none⟩ := hfree
            simp only [ih, cutOff_map, cutOff_append hle]
      · rw [if_neg hgpu, if_neg hgpu, if_neg hgpu]
        exact ih (index + 1) n left

/-- **Placing a workload under a limit** is placing it without one, cut off at the limit. -/
theorem placeAll_limited (policy : Policy) (w : Workload) (n : Node) (left : Nat) :
    placeAll policy w ⟨n, some left⟩ =
      cutOff left n (booked policy w ⟨n, none⟩) (placeAll policy w ⟨n, none⟩) :=
  placeFrom_limited policy w 0 w.containers n left

/-- The record of a workload is only written once nothing can be refused any more. -/
theorem allocate_limited (policy : Policy) (clock : Option Int) (w : Workload) (n : Node)
    (left : Nat) :
    allocate policy clock w ⟨n, some left⟩ =
      cutOff left n (booked policy w ⟨n, none⟩) (allocate policy clock w ⟨n, none⟩) := by
  rw [allocate, allocate, placeAll_limited]
  rcases Nat.lt_or_ge left (booked policy w ⟨n, none⟩).length with hlt | hle
  · rw [cutOff_of_lt hlt, cutOff_of_lt hlt]
  · rw [cutOff_of_le hle, cutOff_of_le hle]
    rcases placeAll policy w ⟨n, none⟩ with ⟨next, e | placements⟩
    · rfl
    · cases clock <;> rfl

end Ledger

/-! ### What is left behind -/

/-- **Where bookings run out, a prefix of them has been made.** Without a limit a workload books
some entries on a node, one after the other, and is placed or refused. If a limit allows for
all of them, the placements, the placed workload or the refusal and the node are the same, and
the rest of the limit is left. If it does not, the workload fails for that reason, nothing is left
of the limit, and exactly as many of the entries as it allowed have been booked, from the first
one on. In each case `Node.withEntries` says what the booked entries come to. -/
theorem limited_ledger_books_prefix (policy : Policy) (clock : Option Int) (w : Workload)
    (n : Node) :
    let es := Ledger.booked policy w ⟨n, none⟩
    let free := Ledger.allocate policy clock w ⟨n, none⟩
    (n.bookEach es = .ok free.state.node ∧ free.state.node = n.withEntries es) ∧
    (∀ left, es.length ≤ left →
      let l : Ledger := ⟨free.state.node, some (left - es.length)⟩
      Ledger.placeAll policy w ⟨n, some left⟩ = ⟨l, Ledger.dryRun policy w ⟨n, none⟩⟩ ∧
      Ledger.allocate policy clock w ⟨n, some left⟩ = ⟨l, free.result⟩ ∧
      Ledger.isAllocatable policy w ⟨n, some left⟩
        = (l, (Ledger.isAllocatable policy w ⟨n, none⟩).2)) ∧
    ∀ left, left < es.length → ∃ m,
      (n.bookEach (es.take left) = .ok m ∧ m = n.withEntries (es.take left)) ∧
      Ledger.allocate policy clock w ⟨n, some left⟩
        = ⟨⟨m, some 0⟩, .error (.internal "registry unavailable")⟩ ∧
      Ledger.isAllocatable policy w ⟨n, some left⟩ = (⟨m, some 0⟩, false) := by
  intro es free
  have hposts := Ledger.posts_booked policy w ⟨n, none⟩
  have hdevices : ∀ e ∈ es, (n.device? e.device).isSome := hposts.isSome_device?
  have hstate : free.state = (Ledger.placeAll policy w ⟨n, none⟩).state :=
    Ledger.state_allocate policy clock w ⟨n, none⟩
  have hnode : free.state.node = n.postAll es := by rw [hstate, hposts.node_eq]
  refine ⟨⟨by rw [hnode, Node.bookEach_eq_ok hdevices], by rw [hnode, Node.postAll_eq_withEntries]⟩,
    fun left hle => ?_, fun left hlt => ?_⟩
  · have hplace := Ledger.placeAll_limited policy w n left
    rw [Ledger.cutOff_of_le hle, ← hstate] at hplace
    refine ⟨hplace, ?_, ?_⟩
    · rw [Ledger.allocate_limited, Ledger.cutOff_of_le hle]
    · rw [Ledger.isAllocatable, hplace]
      rfl
  · have hprefix : ∀ e ∈ es.take left, (n.device? e.device).isSome :=
      fun e he => hdevices e (List.mem_of_mem_take he)
    refine ⟨_, ⟨Node.bookEach_eq_ok hprefix, Node.postAll_eq_withEntries _ n⟩, ?_, ?_⟩
    · rw [Ledger.allocate_limited, Ledger.cutOff_of_lt hlt]
    · rw [Ledger.isAllocatable, Ledger.placeAll_limited, Ledger.cutOff_of_lt hlt]
      rfl

/-- A workload of three containers on three devices: an exclusive one of two devices, a shared one
on the third device, and one that is refused. Five bookings are enough for it to fail for lack of
a device, with two of them left; two bookings are spent on the first container. -/
theorem limited_ledger_books_prefix_refused :
    let n : Node := ⟨"node", 48, 3,
      [{ id := 0, totalCores := 100, totalMemory := 16 },
       { id := 1, totalCores := 100, totalMemory := 16 },
       { id := 2, totalCores := 200, totalMemory := 16 }]⟩
    let w : Workload :=
      { uid := ⟨1⟩, name := "job"
        containers := [.withGpu "wide" 200 0, .withGpu "part" 40 4, .withGpu "whole" 100 0] }
    let es : List Entry := [⟨0, ⟨100, 16, 0⟩⟩, ⟨1, ⟨100, 16, 0⟩⟩, ⟨2, ⟨40, 4, 0⟩⟩]
    let refused := Error.noFeasibleDevice "whole"
    Ledger.booked {} w ⟨n, none⟩ = es ∧
      (Ledger.allocate {} (some 9) w ⟨n, some 5⟩).state.commitsLeft = some 2 ∧
      (Ledger.allocate {} (some 9) w ⟨n, some 5⟩).result = .error refused ∧
      n.bookEach (es.take 2)
        = .ok (Ledger.allocate {} (some 9) w ⟨n, some 2⟩).state.node ∧
      (Ledger.allocate {} (some 9) w ⟨n, some 2⟩).state.node.devices =
        [{ id := 0, totalCores := 100, totalMemory := 16, usedCores := 100, usedMemory := 16
           bookings := [⟨⟨100, 16, 0⟩, 0⟩] },
         { id := 1, totalCores := 100, totalMemory := 16, usedCores := 100, usedMemory := 16
           bookings := [⟨⟨100, 16, 0⟩, 0⟩] },
         { id := 2, totalCores := 200, totalMemory := 16 }] ∧
      (Ledger.isAllocatable {} w ⟨n, some 2⟩).2 = false := by
  intro n w es refused
  have hes : Ledger.booked {} w ⟨n, none⟩ = es := by decide +kernel
  have hfree : (Ledger.allocate {} (some 9) w ⟨n, none⟩).result = .error refused := by
    decide +kernel
  obtain ⟨-, henough, hshort⟩ := limited_ledger_books_prefix {} (some 9) w n
  obtain ⟨-, hallocate, -⟩ := henough 5 (by rw [hes]; decide)
  obtain ⟨m, ⟨hbooked, hnode⟩, hcut, hno⟩ := hshort 2 (by rw [hes]; decide)
  refine ⟨hes, ?_, ?_, ?_, ?_, ?_⟩
  · rw [hallocate, hes]
    rfl
  · rw [hallocate, hfree]
  · rw [hcut, ← hbooked, hes]
  · rw [hcut, hnode, hes]
    decide +kernel
  · rw [hno]

end GpuLedger
