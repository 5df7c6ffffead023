import GpuLedger.Ledger
import GpuLedger.Proofs.FirstDevices
import Mathlib.Data.Multiset.AddSub
import Mathlib.Data.Multiset.Filter

/-!
# Entries

An entry is one line of the ledger: an amount, and the number of the device it is booked on.
Booking an entry (`Node.post`) and taking one away (`Node.unpost`) are changes of the first
device of the number, so a list of entries acts on each device apart, through the amounts that
the list has for it (`Entry.amountsOn`).

What a device holds is read off its bookings in two ways: `Device.amounts` is the list of the
booked amounts, oldest first, and `Node.held` the multiset of what is booked under a number.

## Main results

* `Node.book_eq`, `Node.unbook_eq_ok` and `Node.unbook_eq_error` — the two operations of a node
  in terms of entries, with the conditions under which they fail;
* `Node.postAll_eq` and `Node.unpostAll_eq` — what a list of entries does to a node;
* `Node.held_postAll` and `Node.held_unpostAll` — booking adds and taking away subtracts.
-/

namespace GpuLedger

/-- One line of the ledger: an amount on the device of a number. -/
structure Entry where
  device : DeviceId
  amount : Amount
deriving DecidableEq

namespace Entry

/-- The amounts that a list of entries has for a number, in their order. -/
def amountsOn (id : DeviceId) (es : List Entry) : List Amount :=
  (es.filter (·.device = id)).map Entry.amount

/-- What a multiset of entries has for a number. -/
def on (id : DeviceId) (es : Multiset Entry) : Multiset Amount :=
  (es.filter (·.device = id)).map Entry.amount

/-- No entries have nothing for a number. -/
@[simp] theorem on_zero (id : DeviceId) : on id 0 = 0 := rfl

/-- Entries of two multisets have for a number what both have. -/
@[simp] theorem on_add (id : DeviceId) (es fs : Multiset Entry) :
    on id (es + fs) = on id es + on id fs := by
  simp only [on, Multiset.filter_add, Multiset.map_add]

/-- A list of entries has for a number what it has in order. -/
theorem on_coe (id : DeviceId) (es : List Entry) : on id es = amountsOn id es := by
  simp only [on, amountsOn, Multiset.filter_coe, Multiset.map_coe]

/-- A list of entries has for a number what its first one has, and what the others have. -/
theorem on_cons (id : DeviceId) (e : Entry) (es : List Entry) :
    on id ↑(e :: es) = on id ↑[e] + on id es :=
  on_add id ↑[e] es

/-- A smaller ledger has less for every number. -/
theorem on_le_on (id : DeviceId) {es fs : Multiset Entry} (h : es ≤ fs) : on id es ≤ on id fs :=
  Multiset.map_le_map (Multiset.filter_le_filter _ h)

/-- The first entry comes first for its own number. -/
theorem amountsOn_cons_self (e : Entry) (es : List Entry) :
    amountsOn e.device (e :: es) = e.amount :: amountsOn e.device es := by
  simp [amountsOn]

/-- A single entry has its amount for its number. -/
theorem on_singleton_self (e : Entry) : on e.device ↑[e] = {e.amount} := by
  rw [on_coe, amountsOn_cons_self]
  rfl

/-- An entry for another number does not count. -/
theorem amountsOn_cons_of_ne {e : Entry} {id : DeviceId} (h : e.device ≠ id)
    (es : List Entry) : amountsOn id (e :: es) = amountsOn id es := by
  simp [amountsOn, h]

/-- A number without entries gets nothing. -/
theorem amountsOn_eq_nil {id : DeviceId} {es : List Entry} (h : ∀ e ∈ es, e.device ≠ id) :
    amountsOn id es = [] := by
  simpa [amountsOn] using h

/-- A number that one entry is for, and no other, gets the amount of that entry. -/
theorem amountsOn_of_nodup {es : List Entry} (h : (es.map Entry.device).Nodup) {e : Entry}
    (he : e ∈ es) : amountsOn e.device es = [e.amount] := by
  induction es with
  | nil => exact absurd he List.not_mem_nil
  | cons f rest ih =>
      obtain ⟨hf, hrest⟩ := List.nodup_cons.mp h
      rcases List.mem_cons.mp he with rfl | he
      · rw [amountsOn_cons_self, amountsOn_eq_nil]
        exact fun g hg heq => hf (heq ▸ List.mem_map_of_mem hg)
      · have hne : f.device ≠ e.device := fun heq => hf (heq ▸ List.mem_map_of_mem he)
        rw [amountsOn_cons_of_ne hne, ih hrest he]

end Entry

/-! ### Amounts on a device -/

namespace Booking

/-- Takes the oldest booking of an amount away, if there is one. -/
def erase (a : Amount) (bs : List Booking) : List Booking :=
  bs.eraseP (·.amount = a)

/-- Takes the oldest booking of each of several amounts away, one after the other. -/
def eraseAll (as : List Amount) (bs : List Booking) : List Booking :=
  as.foldl (fun bs a => erase a bs) bs

/-- The first of several amounts is taken away first. -/
@[simp] theorem eraseAll_cons (a : Amount) (as : List Amount) (bs : List Booking) :
    eraseAll (a :: as) bs = eraseAll as (erase a bs) :=
  rfl

/-- The amounts of the bookings that stay. -/
theorem map_amount_erase (a : Amount) (bs : List Booking) :
    (erase a bs).map Booking.amount = (bs.map Booking.amount).erase a := by
  rw [List.erase_eq_eraseP', List.eraseP_map]
  rfl

/-- Taking several amounts away subtracts them, oldest first. -/
theorem map_amount_eraseAll (as : List Amount) (bs : List Booking) :
    (eraseAll as bs).map Booking.amount = (bs.map Booking.amount).diff as := by
  induction as generalizing bs with
  | nil => rfl
  | cons a rest ih => rw [eraseAll_cons, ih, map_amount_erase, List.diff_cons]

end Booking

namespace Device

/-- The booked amounts, oldest first. -/
def amounts (d : Device) : List Amount :=
  d.bookings.map Booking.amount

/-- Books several amounts one after the other. -/
def bookAll (as : List Amount) (d : Device) : Device :=
  as.foldl (fun d a => d.book a) d

/-- Takes the oldest booking of an amount away, if there is one. -/
def unbook (a : Amount) (d : Device) : Device :=
  (d.unbook? a).getD d

/-- Takes the oldest booking of each of several amounts away, one after the other. -/
def unbookAll (as : List Amount) (d : Device) : Device :=
  as.foldl (fun d a => d.unbook a) d

/-- The first of several amounts is booked first. -/
@[simp] theorem bookAll_cons (a : Amount) (as : List Amount) (d : Device) :
    d.bookAll (a :: as) = (d.book a).bookAll as :=
  rfl

/-- The first of several amounts is given back first. -/
@[simp] theorem unbookAll_cons (a : Amount) (as : List Amount) (d : Device) :
    d.unbookAll (a :: as) = (d.unbook a).unbookAll as :=
  rfl

/-- A device keeps its number whatever is booked on it. -/
@[simp] theorem id_bookAll (as : List Amount) (d : Device) : (d.bookAll as).id = d.id := by
  induction as generalizing d with
  | nil => rfl
  | cons a rest ih => rw [bookAll_cons, ih, id_book]

/-- An amount that is booked stands at the end. -/
@[simp] theorem amounts_book (a : Amount) (d : Device) : (d.book a).amounts = d.amounts ++ [a] := by
  simp [amounts, book]

/-- The amounts booked one after the other stand at the end. -/
theorem amounts_bookAll (as : List Amount) (d : Device) :
    (d.bookAll as).amounts = d.amounts ++ as := by
  induction as generalizing d with
  | nil => exact (List.append_nil _).symm
  | cons a rest ih => rw [bookAll_cons, ih, amounts_book, List.append_assoc, List.singleton_append]

/-- The amounts do not change with time. -/
@[simp] theorem amounts_age (time : Quantity) (d : Device) : (d.age time).amounts = d.amounts := by
  simp [amounts, age]

/-- An amount can be given back exactly when it is booked. -/
theorem unbook?_eq (a : Amount) (d : Device) :
    d.unbook? a = if a ∈ d.amounts then some (d.unbook a) else none := by
  have hany : (d.bookings.any (·.amount = a)) = true ↔ a ∈ d.amounts := by
    simp [amounts, List.any_eq_true]
  rw [unbook, unbook?]
  by_cases h : a ∈ d.amounts
  · simp [h, hany.mpr h]
  · have hnone := mt hany.mp h
    simp [h, hnone]

/-- A device keeps its number when an amount is taken away. -/
@[simp] theorem id_unbook (a : Amount) (d : Device) : (d.unbook a).id = d.id := by
  rw [unbook, unbook?]
  split <;> rfl

/-- A device keeps its number whatever is taken away. -/
@[simp] theorem id_unbookAll (as : List Amount) (d : Device) : (d.unbookAll as).id = d.id := by
  induction as generalizing d with
  | nil => rfl
  | cons a rest ih => rw [unbookAll_cons, ih, id_unbook]

/-- Nothing is taken from a device that does not hold the amount. -/
theorem unbook_of_notMem {a : Amount} {d : Device} (h : a ∉ d.amounts) : d.unbook a = d := by
  have hnone := unbook?_eq a d
  rw [if_neg h] at hnone
  rw [unbook, hnone, Option.getD_none]

/-- A device that holds the amount loses its oldest booking of it, and its counters fall. -/
theorem unbook_of_mem {a : Amount} {d : Device} (h : a ∈ d.amounts) :
    d.unbook a = { d with
      usedCores := Quantity.subSat d.usedCores a.vcore
      usedMemory := Quantity.subSat d.usedMemory a.vmemory
      bookings := Booking.erase a d.bookings } := by
  have hany : d.bookings.any (·.amount = a) = true := by
    simpa [amounts, List.any_eq_true] using h
  simp only [unbook, unbook?, hany, if_true, Option.getD_some]
  rfl

/-- The bookings lose the oldest one of the amount, or none if there is no such booking. -/
theorem bookings_unbook (a : Amount) (d : Device) :
    (d.unbook a).bookings = Booking.erase a d.bookings := by
  by_cases h : a ∈ d.amounts
  · rw [unbook_of_mem h]
  · rw [unbook_of_notMem h]
    refine (List.eraseP_of_forall_not fun b hb hba => h ?_).symm
    exact List.mem_map.mpr ⟨b, hb, of_decide_eq_true hba⟩

/-- The bookings lose the oldest one of each amount in turn. -/
theorem bookings_unbookAll (as : List Amount) (d : Device) :
    (d.unbookAll as).bookings = Booking.eraseAll as d.bookings := by
  induction as generalizing d with
  | nil => rfl
  | cons a rest ih => rw [unbookAll_cons, ih, bookings_unbook, Booking.eraseAll_cons]

/-- The amounts lose the first one that is equal to it. -/
theorem amounts_unbook (a : Amount) (d : Device) : (d.unbook a).amounts = d.amounts.erase a := by
  rw [amounts, bookings_unbook, Booking.map_amount_erase, amounts]

/-- Taking several amounts away subtracts them from those that are booked. -/
theorem amounts_unbookAll (as : List Amount) (d : Device) :
    (d.unbookAll as).amounts = d.amounts.diff as := by
  rw [amounts, bookings_unbookAll, Booking.map_amount_eraseAll, amounts]

/-- Applies a function to the amount of an entry and the device, if the entry is for it. -/
def apply (g : Amount → Device → Device) (e : Entry) (d : Device) : Device :=
  if d.id = e.device then g e.amount d else d

/-- A change that keeps numbers keeps them as the change by an entry as well. -/
theorem id_apply {g : Amount → Device → Device} (hg : ∀ a d, (g a d).id = d.id) (e : Entry)
    (d : Device) : (apply g e d).id = d.id := by
  rw [apply]
  split
  · exact hg _ _
  · rfl

end Device

/-! ### Entries of a node -/

namespace Node

/-- What is booked under a number. -/
def held (n : Node) (id : DeviceId) : Multiset Amount :=
  (n.device? id).elim 0 fun d => d.amounts

/-- Books an entry on the device of its number, if there is one. -/
def post (e : Entry) (n : Node) : Node :=
  n.mapFirst (Device.apply Device.book e)

/-- Takes an entry away from the device of its number, if it is there. -/
def unpost (e : Entry) (n : Node) : Node :=
  n.mapFirst (Device.apply Device.unbook e)

/-- Books several entries one after the other. -/
def postAll (es : List Entry) (n : Node) : Node :=
  es.foldl (fun n e => n.post e) n

/-- Takes several entries away one after the other. -/
def unpostAll (es : List Entry) (n : Node) : Node :=
  es.foldl (fun n e => n.unpost e) n

/-- The first of several entries is booked first. -/
@[simp] theorem postAll_cons (e : Entry) (es : List Entry) (n : Node) :
    n.postAll (e :: es) = (n.post e).postAll es :=
  rfl

/-- The first of several entries is taken away first. -/
@[simp] theorem unpostAll_cons (e : Entry) (es : List Entry) (n : Node) :
    n.unpostAll (e :: es) = (n.unpost e).unpostAll es :=
  rfl

/-- Putting a changed device in place of the first of its number changes just that one. -/
theorem replaceFirst_eq_mapUnseen {g : Device → Device} (hg : ∀ d, (g d).id = d.id)
    {id : DeviceId} {seen : List DeviceId} (hid : id ∉ seen) {ds : List Device} {d : Device}
    (hd : ds.find? (·.id = id) = some d) :
    replaceFirst (g d) ds = mapUnseen (fun e => if e.id = id then g e else e) seen ds := by
  induction ds generalizing seen with
  | nil => simp at hd
  | cons e rest ih =>
      by_cases he : e.id = id
      · have hed : e = d := by simpa [he] using hd
        subst hed
        have hrest : mapUnseen (fun x => if x.id = id then g x else x) (e.id :: seen) rest
            = rest := by
          refine mapUnseen_eq_self fun x _ hx => if_neg fun hxid => hx ?_
          rw [hxid, he]
          exact List.mem_cons_self
        subst he
        simp only [replaceFirst, hg, if_true, mapUnseen, hid, if_false, hrest]
      · have hdid : d.id = id := by simpa using List.find?_some hd
        have hne : e.id ≠ (g d).id := by rw [hg, hdid]; exact he
        have hnew : id ∉ e.id :: seen := by simp [Ne.symm he, hid]
        have hd' : rest.find? (·.id = id) = some d := by simpa [he] using hd
        have hhead : (if e.id ∈ seen then e else if e.id = id then g e else e) = e := by
          simp [he]
        simp only [replaceFirst, hne, if_false, mapUnseen, hhead, ih hnew hd']

/-- Putting a changed device in place of the one of its number is a change of the first devices. -/
theorem setDevice_eq_mapFirst {g : Device → Device} (hg : ∀ d, (g d).id = d.id) {n : Node}
    {id : DeviceId} {d : Device} (hd : n.device? id = some d) :
    n.setDevice (g d) = n.mapFirst fun e => if e.id = id then g e else e := by
  simp only [setDevice, mapFirst, replaceFirst_eq_mapUnseen hg List.not_mem_nil hd]

/-- **Booking**, in terms of entries: it fails exactly where there is no such device. -/
theorem book_eq (n : Node) (e : Entry) :
    n.book e.device e.amount = if (n.device? e.device).isSome then .ok (n.post e)
      else .error (.deviceNotFound n.name e.device) := by
  rw [book]
  cases hd : n.device? e.device with
  | none => rfl
  | some d =>
      exact congrArg _ (setDevice_eq_mapFirst (Device.id_book e.amount) hd)

/-- What the device of an entry holds is in `held`. -/
theorem held_of_device? {n : Node} {id : DeviceId} {d : Device} (h : n.device? id = some d) :
    n.held id = d.amounts := by
  simp only [held, h, Option.elim_some]

/-- Nothing is held under a number that no device has. -/
theorem held_of_device?_eq_none {n : Node} {id : DeviceId} (h : n.device? id = none) :
    n.held id = 0 := by
  simp only [held, h, Option.elim_none]

/-- **Giving back**, in terms of entries: it fails exactly where the amount is not held. -/
theorem unbook_eq_ok {n : Node} {e : Entry} (h : e.amount ∈ n.held e.device) :
    n.unbook e.device e.amount = .ok (n.unpost e) := by
  rw [unbook]
  cases hd : n.device? e.device with
  | none => simp [held_of_device?_eq_none hd] at h
  | some d =>
      have hmem : e.amount ∈ d.amounts := by simpa [held_of_device? hd] using h
      simp only [Device.unbook?_eq, if_pos hmem]
      exact congrArg _ (setDevice_eq_mapFirst (Device.id_unbook e.amount) hd)

/-- An amount that is not held cannot be given back: there is no such device, or no such booking
on it. -/
theorem unbook_of_notMem {n : Node} {e : Entry} (h : e.amount ∉ n.held e.device) :
    n.unbook e.device e.amount = .error (if (n.device? e.device).isSome
      then .bookingNotFound n.name e.device else .deviceNotFound n.name e.device) := by
  rw [unbook]
  cases hd : n.device? e.device with
  | none => rfl
  | some d =>
      have hmem : e.amount ∉ d.amounts := by simpa [held_of_device? hd] using h
      simp only [Device.unbook?_eq, if_neg hmem]
      rfl

/-- An amount that is not held cannot be given back. -/
theorem unbook_eq_error {n : Node} {e : Entry} (h : e.amount ∉ n.held e.device) :
    ∃ err, n.unbook e.device e.amount = .error err :=
  ⟨_, unbook_of_notMem h⟩

/-- **Several entries** reach every device as the amounts they have for its number. -/
theorem foldl_mapFirst {g : Amount → Device → Device} (hg : ∀ a d, (g a d).id = d.id)
    (es : List Entry) (n : Node) :
    es.foldl (fun n e => n.mapFirst (Device.apply g e)) n
      = n.mapFirst fun d => (Entry.amountsOn d.id es).foldl (fun d a => g a d) d := by
  induction es generalizing n with
  | nil => exact ((mapFirst_eq_self_iff fun _ => rfl).mpr fun _ _ _ => rfl).symm
  | cons e rest ih =>
      rw [List.foldl_cons, ih, mapFirst_mapFirst (Device.id_apply hg e)]
      refine mapFirst_congr fun d _ => ?_
      simp only [Function.comp_apply, Device.id_apply hg]
      by_cases hd : d.id = e.device
      · rw [Device.apply, if_pos hd, hd, Entry.amountsOn_cons_self, List.foldl_cons]
      · rw [Device.apply, if_neg hd, Entry.amountsOn_cons_of_ne (Ne.symm hd)]

/-- **Booking a list of entries** books on each first device the amounts for its number. -/
theorem postAll_eq (es : List Entry) (n : Node) :
    n.postAll es = n.mapFirst fun d => d.bookAll (Entry.amountsOn d.id es) :=
  foldl_mapFirst Device.id_book es n

/-- **Taking a list of entries away** takes from each first device the amounts for its number. -/
theorem unpostAll_eq (es : List Entry) (n : Node) :
    n.unpostAll es = n.mapFirst fun d => d.unbookAll (Entry.amountsOn d.id es) :=
  foldl_mapFirst Device.id_unbook es n

/-! ### What entries leave alone -/

/-- Booking an entry keeps the numbers of the devices. -/
@[simp] theorem map_id_post (e : Entry) (n : Node) :
    (n.post e).devices.map Device.id = n.devices.map Device.id :=
  map_id_mapFirst (Device.id_apply Device.id_book e)

/-- Taking an entry away keeps the numbers of the devices. -/
@[simp] theorem map_id_unpost (e : Entry) (n : Node) :
    (n.unpost e).devices.map Device.id = n.devices.map Device.id :=
  map_id_mapFirst (Device.id_apply Device.id_unbook e)

/-- Booking a list of entries keeps the numbers of the devices. -/
@[simp] theorem map_id_postAll (es : List Entry) (n : Node) :
    (n.postAll es).devices.map Device.id = n.devices.map Device.id := by
  rw [postAll_eq, map_id_mapFirst fun _ => Device.id_bookAll _ _]

/-- Taking a list of entries away keeps the numbers of the devices. -/
@[simp] theorem map_id_unpostAll (es : List Entry) (n : Node) :
    (n.unpostAll es).devices.map Device.id = n.devices.map Device.id := by
  rw [unpostAll_eq, map_id_mapFirst fun _ => Device.id_unbookAll _ _]

/-- The numbers of the devices do not change with time. -/
@[simp] theorem map_id_age (time : Quantity) (n : Node) :
    (n.age time).devices.map Device.id = n.devices.map Device.id := by
  rw [age, List.map_map]
  rfl

/-- Booking does not change the quota. -/
@[simp] theorem quota_postAll (es : List Entry) (n : Node) : (n.postAll es).quota = n.quota := by
  rw [postAll_eq, quota_mapFirst]

/-- Taking away does not change the quota. -/
@[simp] theorem quota_unpostAll (es : List Entry) (n : Node) :
    (n.unpostAll es).quota = n.quota := by
  rw [unpostAll_eq, quota_mapFirst]

/-! ### What is held -/

/-- The device of a number after booking. -/
theorem device?_postAll (es : List Entry) (n : Node) (id : DeviceId) :
    (n.postAll es).device? id = (n.device? id).map (Device.bookAll (Entry.amountsOn id es)) := by
  rw [postAll_eq, device?_mapFirst fun _ => Device.id_bookAll _ _]
  refine Option.map_congr fun d hd => ?_
  rw [id_of_device? hd]

/-- The device of a number after taking away. -/
theorem device?_unpostAll (es : List Entry) (n : Node) (id : DeviceId) :
    (n.unpostAll es).device? id
      = (n.device? id).map (Device.unbookAll (Entry.amountsOn id es)) := by
  rw [unpostAll_eq, device?_mapFirst fun _ => Device.id_unbookAll _ _]
  refine Option.map_congr fun d hd => ?_
  rw [id_of_device? hd]

/-- Booking adds the entries to what is held, where there are devices for them. -/
theorem held_postAll {es : List Entry} {n : Node}
    (hes : ∀ e ∈ es, (n.device? e.device).isSome) (id : DeviceId) :
    (n.postAll es).held id = n.held id + Entry.on id es := by
  simp only [held, device?_postAll, Entry.on_coe]
  cases hd : n.device? id with
  | none =>
      have hnone : Entry.amountsOn id es = [] :=
        Entry.amountsOn_eq_nil fun e he heq => by simpa [heq, hd] using hes e he
      simp [hnone]
  | some d => simp [Device.amounts_bookAll]

/-- Taking entries away subtracts them from what is held. -/
theorem held_unpostAll (es : List Entry) (n : Node) (id : DeviceId) :
    (n.unpostAll es).held id = n.held id - Entry.on id es := by
  simp only [held, device?_unpostAll, Entry.on_coe]
  cases n.device? id with
  | none => exact (Multiset.zero_sub _).symm
  | some d => simp [Device.amounts_unbookAll]

/-- Taking one entry away subtracts it from what is held. -/
theorem held_unpost (e : Entry) (n : Node) (id : DeviceId) :
    (n.unpost e).held id = n.held id - Entry.on id ↑[e] :=
  held_unpostAll [e] n id

/-- The device of a number is as old as the node. -/
theorem device?_age (time : Quantity) (n : Node) (id : DeviceId) :
    (n.age time).device? id = (n.device? id).map (Device.age time) := by
  simp only [device?, age, List.find?_map]
  rfl

/-- Time does not change what is held. -/
@[simp] theorem held_age (time : Quantity) (n : Node) (id : DeviceId) :
    (n.age time).held id = n.held id := by
  simp only [held, device?_age]
  cases n.device? id with
  | none => rfl
  | some d => simp

end Node

end GpuLedger
