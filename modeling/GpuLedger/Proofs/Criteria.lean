import GpuLedger.Proofs.Scores

/-!
# What a Score Depends On

A shared placement sees four numbers of a device and its own number, which decides ties. Nothing
else of the device reaches the ranking: not what it has in total, not what its counters say is used,
not what its bookings are, as long as the free capacity, the longest remaining time and the number
of the bookings come out the same. Two nodes whose devices **look alike** in this sense
(`Device.LooksLike`) are ranked in the same way, place by place and score by score.

Within one ranking every score is measured against all candidates, but in the same way for each. So
candidates that do not differ in the four values have one score, and of these the standard order
puts the one with the smallest number first. The choice never goes past a candidate for another one
of the same score, so it is the one with the smallest number that it can take.

## Main results

* `Order.Lists.of_forall₂` — lists of devices that look alike are listed by the same places;
* `Share.looksLike_candidates` — the candidates look alike;
* `Share.closeness_eq_of_sameCriteria` — four values decide the score;
* `scores_depend_on_criteria` — the two together, and the tie.
-/

namespace GpuLedger

/-! ### Devices that look alike -/

/-- Two devices that a ranking cannot tell apart. -/
structure Device.LooksLike (d e : Device) : Prop where
  id : d.id = e.id
  cores : d.allocatableCores = e.allocatableCores
  memory : d.allocatableMemory = e.allocatableMemory
  isolated : d.isolatedTime = e.isolatedTime
  count : d.bookings.length = e.bookings.length

namespace Device.LooksLike

variable {d d' e e' : Device}

/-- Looking alike goes both ways. -/
theorem symm (h : d.LooksLike e) : e.LooksLike d :=
  ⟨h.id.symm, h.cores.symm, h.memory.symm, h.isolated.symm, h.count.symm⟩

/-- Devices that look alike are compared alike in every order. -/
theorem compare_eq (hd : d.LooksLike d') (he : e.LooksLike e') (o : Order) :
    o.compare d e = o.compare d' e' := by
  induction o with
  | nil => rfl
  | cons key rest ih =>
      have hkey : key.compare d e = key.compare d' e' := by
        cases key with
        | cores => rw [Key.compare, Key.compare, hd.cores, he.cores]
        | memory => rw [Key.compare, Key.compare, hd.memory, he.memory]
        | id => rw [Key.compare, Key.compare, hd.id, he.id]
      rw [Order.compare, Order.compare, hkey, ih]

/-- A device that looks like an eligible one is eligible. -/
theorem eligible (h : d.LooksLike e) {filter : Bool} {r : Request}
    (hd : Share.Eligible filter r d) : Share.Eligible filter r e := by
  rwa [Share.Eligible, Share.HasRoom, ← h.cores, ← h.memory]

/-- The places of a list that looks like another have devices that look like those of the other. -/
theorem exists_at {ds es : List Device} (h : List.Forall₂ LooksLike ds es) {i : Nat}
    (hd : ds[i]? = some d) : ∃ e, es[i]? = some e ∧ d.LooksLike e := by
  induction h generalizing i with
  | nil => cases hd
  | @cons x y xs ys hxy _ ih =>
      cases i with
      | zero =>
          obtain rfl : x = d := Option.some.inj hd
          exact ⟨y, rfl, hxy⟩
      | succ i => exact ih hd

/-- What stands at the same places of lists that look alike looks alike. -/
theorem of_places {ds es : List Device} (h : List.Forall₂ LooksLike ds es) {places : List Nat}
    {xs ys : List Device} (hxs : xs.map some = places.map (ds[·]?))
    (hys : ys.map some = places.map (es[·]?)) : List.Forall₂ LooksLike xs ys := by
  induction places generalizing xs ys with
  | nil =>
      rw [List.map_eq_nil_iff.mp hxs, List.map_eq_nil_iff.mp hys]
      exact .nil
  | cons i rest ih =>
      obtain ⟨x, xs, rfl, hx, hxs⟩ := List.map_eq_cons_iff.mp hxs
      obtain ⟨y, ys, rfl, hy, hys⟩ := List.map_eq_cons_iff.mp hys
      obtain ⟨e, he, hlike⟩ := exists_at h hx.symm
      obtain rfl : y = e := Option.some.inj (hy.trans he)
      exact .cons hlike (ih hxs hys)

/-- What only depends on the looks of a device is the same all along lists that look alike. -/
theorem map_eq {α : Type} {f : Device → α} (hf : ∀ d e : Device, d.LooksLike e → f d = f e)
    {ds es : List Device} (h : List.Forall₂ LooksLike ds es) : ds.map f = es.map f := by
  induction h with
  | nil => rfl
  | cons hde _ ih => rw [List.map_cons, List.map_cons, hf _ _ hde, ih]

end Device.LooksLike

/-- **Lists that look alike are listed by the same places.** -/
theorem Order.Lists.of_forall₂ {o : Order} {p : Device → Prop}
    (hp : ∀ d e : Device, d.LooksLike e → p d → p e) {ds es : List Device} {places : List Nat}
    (h : List.Forall₂ Device.LooksLike ds es) (hds : o.Lists p ds places) :
    o.Lists p es places := by
  have hback : List.Forall₂ Device.LooksLike es ds := h.flip.imp fun _ _ => Device.LooksLike.symm
  refine ⟨hds.nodup, fun i => ?_, hds.ordered.imp fun hij d e hd he => ?_⟩
  · rw [hds.mem_iff]
    constructor
    · rintro ⟨d, hd, hpd⟩
      obtain ⟨e, he, hlike⟩ := Device.LooksLike.exists_at h hd
      exact ⟨e, he, hp d e hlike hpd⟩
    · rintro ⟨e, he, hpe⟩
      obtain ⟨d, hd, hlike⟩ := Device.LooksLike.exists_at hback he
      exact ⟨d, hd, hp e d hlike hpe⟩
  · obtain ⟨d', hd', hdlike⟩ := Device.LooksLike.exists_at hback hd
    obtain ⟨e', he', helike⟩ := Device.LooksLike.exists_at hback he
    rw [hdlike.compare_eq helike]
    exact hij d' e' hd' he'

namespace Share

variable {filter : Bool} {r : Request} {d e : Device}

/-! ### Devices of the same values -/

/-- Two devices of the same four values for a request. -/
structure SameCriteria (r : Request) (d e : Device) : Prop where
  cores : d.allocatableCores = e.allocatableCores
  memory : d.allocatableMemory = e.allocatableMemory
  /-- The container would outlast those already there by the same time, if at all. -/
  wait : r.estimatedTime.toNat - d.isolatedTime.toNat = r.estimatedTime.toNat - e.isolatedTime.toNat
  count : d.bookings.length = e.bookings.length

/-- Devices of the same criteria are described by the same four numbers. -/
theorem SameCriteria.values_eq (h : SameCriteria r d e) : values r d = values r e := by
  have hwait : Quantity.subSat r.estimatedTime d.isolatedTime
      = Quantity.subSat r.estimatedTime e.isolatedTime :=
    UInt64.toNat_inj.mp (by rw [Quantity.toNat_subSat, Quantity.toNat_subSat, h.wait])
  rw [values, values, h.cores, h.memory, hwait, Device.containerCount, Device.containerCount,
    h.count]

/-- Devices that look alike have the same criteria for every request. -/
theorem SameCriteria.of_looksLike (h : d.LooksLike e) (r : Request) : SameCriteria r d e :=
  ⟨h.cores, h.memory, by rw [h.isolated], h.count⟩

/-- The candidates of lists that look alike look alike. -/
theorem looksLike_candidates {ds es : List Device} {places : List Nat}
    (h : List.Forall₂ Device.LooksLike ds es) (hds : RankedFrom filter ds r places)
    (hes : RankedFrom filter es r places) :
    List.Forall₂ Device.LooksLike (candidates filter ds r) (candidates filter es r) := by
  rw [← map_device_rank, ← map_device_rank]
  exact Device.LooksLike.of_places h hds.devices hes.devices

/-! ### Scores and ties -/

/-- **The four values of a candidate decide its score** within a ranking. -/
theorem closeness_eq_of_sameCriteria {ds : List Device} {s t : Scored}
    (hs : s ∈ rank filter ds r) (ht : t ∈ rank filter ds r)
    (h : SameCriteria r s.device t.device) : s.closeness = t.closeness := by
  rw [rank_eq_map] at hs ht
  obtain ⟨d, -, rfl⟩ := List.mem_map.mp hs
  obtain ⟨e, -, rfl⟩ := List.mem_map.mp ht
  exact congrArg (closenessAmong _) h.values_eq

/-- Of two devices of the same values the standard order lists the one with the smaller number
first. -/
theorem SameCriteria.compare_eq_gt (h : SameCriteria r d e) (hid : e.id < d.id) :
    Order.standard.compare d e = .gt := by
  have hcompare : compare d.id e.id = .gt := Std.compare_eq_gt.mpr hid
  simp [Order.standard, Order.compare, Key.compare, h.cores, h.memory, hcompare]

/-- **A tie goes to the smaller number.** -/
theorem id_le_of_choose? {ds : List Device} (hnumbers : Comparable (rank filter ds r))
    (hd : choose? filter ds r = some d) (he : e ∈ ds) (heligible : Eligible filter r e)
    (h : SameCriteria r d e) : d.id ≤ e.id := by
  obtain ⟨best, hbest, rfl⟩ := Option.map_eq_some_iff.mp hd
  obtain ⟨before, after, hsplit, hbefore, -⟩ := leads_best? hbest hnumbers
  have hmem : e ∈ (rank filter ds r).map Scored.device := by
    rw [map_device_rank]
    exact mem_candidates.mpr ⟨he, heligible⟩
  obtain ⟨s, hs, rfl⟩ := List.mem_map.mp hmem
  have hscore := closeness_eq_of_sameCriteria (mem_of_best? hbest) hs h
  have hsorted : Order.standard.Sorted ((rank filter ds r).map Scored.device) := by
    rw [map_device_rank]
    exact Order.sorted_sort _ _
  rw [hsplit, List.map_append, List.map_cons] at hsorted
  obtain ⟨-, hbehind, -⟩ := List.pairwise_append.mp hsorted
  obtain ⟨hafter, -⟩ := List.pairwise_cons.mp hbehind
  by_contra hid
  rw [hsplit] at hs
  -- In front of the chosen one scores are smaller, behind it numbers are not.
  rcases List.mem_append.mp hs with hs | hs
  · have hlt := hbefore s hs
    rw [hscore, lt_iff_height_lt (hnumbers s (by rw [hsplit]; simp [hs]))] at hlt
    exact lt_irrefl _ hlt
  · rcases List.mem_cons.mp hs with rfl | hs
    · exact hid (UInt32.le_refl _)
    · have hle := hafter s.device (List.mem_map_of_mem hs)
      rw [h.compare_eq_gt (UInt32.not_le.mp hid)] at hle
      cases hle

end Share

/-- **Scores depend on the four criteria only.** Lists of devices that agree, place by place, in
number, free cores and memory, isolated time and how many bookings there are, are ranked from the
same places, with the same numbers and the same scores. Within a ranking, candidates of the same
four values have the same score, to the bit, and if every score is a number, the chosen device has
the smallest number of all the eligible devices of its values. -/
theorem scores_depend_on_criteria (filter : Bool) (r : Request) :
    (∀ ds es, List.Forall₂ Device.LooksLike ds es →
      (∃ places, Share.RankedFrom filter ds r places ∧ Share.RankedFrom filter es r places) ∧
      (Share.rank filter ds r).map (·.device.id) = (Share.rank filter es r).map (·.device.id) ∧
      (Share.rank filter ds r).map (·.closeness) = (Share.rank filter es r).map (·.closeness)) ∧
    ∀ ds,
      (∀ s ∈ Share.rank filter ds r, ∀ t ∈ Share.rank filter ds r,
        Share.SameCriteria r s.device t.device → s.closeness = t.closeness) ∧
      (Share.Comparable (Share.rank filter ds r) → ∀ d, Share.choose? filter ds r = some d →
        ∀ e ∈ ds, Share.Eligible filter r e → Share.SameCriteria r d e → d.id ≤ e.id) := by
  refine ⟨fun ds es h => ?_, fun ds => ⟨?_, ?_⟩⟩
  · obtain ⟨places, hds⟩ := Share.exists_rankedFrom filter ds r
    obtain ⟨places', hes⟩ := Share.exists_rankedFrom filter es r
    have hlists := hds.lists.of_forall₂ (fun _ _ hlike => hlike.eligible) h
    obtain rfl : places = places' := hlists.unique hes.lists
    have hlike := Share.looksLike_candidates h hds hes
    have hsame : ∀ d e : Device, d.LooksLike e → Share.values r d = Share.values r e :=
      fun _ _ h => (Share.SameCriteria.of_looksLike h r).values_eq
    refine ⟨⟨places, hds, hes⟩, ?_, ?_⟩
    · rw [Share.rank_eq_map, Share.rank_eq_map, List.map_map, List.map_map]
      exact Device.LooksLike.map_eq (fun _ _ h => h.id) hlike
    · rw [Share.rank_eq_map, Share.rank_eq_map, List.map_map, List.map_map,
        Device.LooksLike.map_eq hsame hlike]
      exact Device.LooksLike.map_eq
        (fun d e h => congrArg (Share.closenessAmong _) (hsame d e h)) hlike
  · exact fun s hs t ht h => Share.closeness_eq_of_sameCriteria hs ht h
  · exact fun hnumbers d hd e he heligible h => Share.id_le_of_choose? hnumbers hd he heligible h

/-- Two devices of different size, one of them booked for a short container and the other one for a
long container that has run for a while, look alike apart from their numbers. Whichever has which
number, the numbers and the scores of the ranking are the same, and number 0 is chosen. -/
theorem scores_depend_on_criteria_tie :
    let short (id : DeviceId) : Device :=
      { id, totalCores := 110, totalMemory := 18, usedCores := 10, usedMemory := 2
        bookings := [⟨⟨10, 2, 5⟩, 0⟩] }
    let long (id : DeviceId) : Device :=
      { id, totalCores := 120, totalMemory := 20, usedCores := 20, usedMemory := 4
        bookings := [⟨⟨20, 4, 9⟩, 4⟩] }
    let ds := [short 1, long 0]
    let es := [long 1, short 0]
    let r : Request := ⟨40, 4, 7⟩
    (Share.rank true ds r).map (·.device.id) = (Share.rank true es r).map (·.device.id) ∧
    (Share.rank true ds r).map (·.closeness) = (Share.rank true es r).map (·.closeness) ∧
    Share.choose? true ds r = some (long 0) ∧ (long 0).id ≤ (short 1).id := by
  intro short long ds es r
  have hlike : ∀ id, (short id).LooksLike (long id) := fun _ => ⟨rfl, rfl, rfl, rfl, rfl⟩
  obtain ⟨hpairs, hsingle⟩ := scores_depend_on_criteria true r
  obtain ⟨-, hids, hscores⟩ := hpairs ds es (.cons (hlike 1) (.cons (hlike 0).symm .nil))
  obtain ⟨-, hleast⟩ := hsingle ds
  have hchoose : Share.choose? true ds r = some (long 0) := by decide +kernel
  have hroom : Share.Eligible true r (short 1) := by decide
  refine ⟨hids, hscores, hchoose, ?_⟩
  exact hleast (by decide +kernel) (long 0) hchoose (short 1) List.mem_cons_self hroom
    ⟨rfl, rfl, rfl, rfl⟩

end GpuLedger
