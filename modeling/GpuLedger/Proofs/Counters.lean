import GpuLedger.Proofs.Capacity
import Mathlib.Data.List.Induction

/-!
# Counters

A device counts how many cores and how much memory are used, beside the list of its bookings. A
counter stays at the greatest quantity where a booking would take it further, but it falls by the
whole of what is given back. So it can lose part of what is booked, and never gains anything
(`Counter.Covered.run`): what is booked may be more than what is counted, not less. A device without
bookings is therefore always idle.

What a counter has lost comes back only when nothing is booked any more. This gives the exact
condition under which a counter is right (`Counter.exact_run_iff`): since its total was last zero,
the total has never exceeded the greatest quantity (`Counter.FitsSinceNone`). Whether the free
capacity of a device is over-reported is decided by this condition, and by whether the counter,
though wrong, is still beyond the capacity.

The two counters are treated as one (`Counter`): what is said of one is said of the other.

## Main results

* `Counter.perform_cases` — what a single change does to a counter and to what is booked;
* `Counter.Covered.run`, `Counter.Exact.run` — what single changes keep, over whole runs;
* `Counter.exact_run_iff` — when a counter is right;
* `no_phantom_usage` — nothing is counted that is not booked;
* `free_capacity_decided` — when the free capacity is over-reported;
* `freed_counter_forgets` — a device on which it is.
-/

namespace GpuLedger

/-! ### What happens to a device -/

namespace Device

/-- One thing that happens to a device. -/
inductive Change where
  /-- An amount is booked. -/
  | book (a : Amount)
  /-- An amount is given back, if it is booked. -/
  | unbook (a : Amount)
  /-- Time passes. -/
  | age (time : Quantity)

/-- The device that a change leaves behind. -/
def Change.perform : Change → Device → Device
  | book a => Device.book a
  | unbook a => Device.unbook a
  | age time => Device.age time

/-- The device after several changes, one after the other. -/
def run (changes : List Change) (d : Device) : Device :=
  changes.foldl (fun d c => c.perform d) d

/-- Changes in two parts are made one part after the other. -/
theorem run_append (before after : List Change) (d : Device) :
    d.run (before ++ after) = (d.run before).run after :=
  List.foldl_append

end Device

/-! ### The two counters -/

/-- What a device counts. -/
inductive Counter where
  /-- The used cores. -/
  | cores
  /-- The used memory. -/
  | memory

namespace Counter

/-- The part of an amount that is counted. -/
def part : Counter → Amount → Quantity
  | cores => Amount.vcore
  | memory => Amount.vmemory

/-- How much is counted as used. -/
def used : Counter → Device → Quantity
  | cores => Device.usedCores
  | memory => Device.usedMemory

/-- How much there is. -/
def capacity : Counter → Device → Quantity
  | cores => Device.totalCores
  | memory => Device.totalMemory

/-- How much is reported as free. -/
def free : Counter → Device → Quantity
  | cores => Device.allocatableCores
  | memory => Device.allocatableMemory

/-- The exact total of what is booked, of any size. -/
def booked (k : Counter) (d : Device) : Nat :=
  Quantity.total (d.amounts.map k.part)

variable {k : Counter} {d : Device} {a : Amount}

/-- A booking is added to a counter, up to the greatest quantity. -/
theorem used_book (k : Counter) (a : Amount) (d : Device) :
    k.used (d.book a) = Quantity.addSat (k.used d) (k.part a) := by
  cases k <;> rfl

/-- A booking that is given back is subtracted from a counter, down to zero. -/
theorem used_unbook (h : a ∈ d.amounts) :
    k.used (d.unbook a) = Quantity.subSat (k.used d) (k.part a) := by
  rw [Device.unbook_of_mem h]
  cases k <;> rfl

/-- A counter does not change with time. -/
theorem used_age (k : Counter) (time : Quantity) (d : Device) : k.used (d.age time) = k.used d := by
  cases k <;> rfl

/-- A booking adds its part to the total of what is booked. -/
theorem booked_book (k : Counter) (a : Amount) (d : Device) :
    k.booked (d.book a) = k.booked d + (k.part a).toNat := by
  rw [booked, Device.amounts_book, List.map_append, Quantity.total_append]
  rfl

/-- A booking that is given back takes its part off the total of what is booked. -/
theorem booked_unbook (h : a ∈ d.amounts) :
    k.booked d = (k.part a).toNat + k.booked (d.unbook a) := by
  rw [booked, booked, Device.amounts_unbook]
  exact Quantity.total_perm ((List.perm_cons_erase h).map k.part)

/-- The total of what is booked does not change with time. -/
theorem booked_age (k : Counter) (time : Quantity) (d : Device) :
    k.booked (d.age time) = k.booked d := by
  rw [booked, booked, Device.amounts_age]

/-- What is reported as free is the capacity without what is counted. -/
theorem toNat_free (k : Counter) (d : Device) :
    (k.free d).toNat = (k.capacity d).toNat - (k.used d).toNat := by
  cases k <;> exact Quantity.toNat_subSat _ _

/-- No change touches the capacity of a device. -/
theorem capacity_perform (k : Counter) (c : Device.Change) (d : Device) :
    k.capacity (c.perform d) = k.capacity d := by
  cases c with
  | book a => cases k <;> rfl
  | unbook a =>
      by_cases h : a ∈ d.amounts
      · rw [Device.Change.perform, Device.unbook_of_mem h]
        cases k <;> rfl
      · rw [Device.Change.perform, Device.unbook_of_notMem h]
  | age time => cases k <;> rfl

/-- The capacity stays as it is. -/
theorem capacity_run (k : Counter) (changes : List Device.Change) (d : Device) :
    k.capacity (d.run changes) = k.capacity d := by
  induction changes generalizing d with
  | nil => rfl
  | cons c rest ih => exact (ih (c.perform d)).trans (k.capacity_perform c d)

/-- **What a change does** to a counter and to its total: something more is booked, and the counter
rises by it as far as it can; or something, perhaps nothing, is gone, and the counter falls by it as
far as it can. -/
theorem perform_cases (k : Counter) (c : Device.Change) (d : Device) :
    (∃ more, (k.used (c.perform d)).toNat = min ((k.used d).toNat + more) (UInt64.size - 1) ∧
      k.booked (c.perform d) = k.booked d + more) ∨
    ∃ gone, (k.used (c.perform d)).toNat = (k.used d).toNat - gone ∧
      k.booked d = gone + k.booked (c.perform d) := by
  cases c with
  | book a =>
      refine .inl ⟨(k.part a).toNat, ?_, k.booked_book a d⟩
      rw [Device.Change.perform, used_book, Quantity.toNat_addSat]
  | unbook a =>
      refine .inr ?_
      rw [Device.Change.perform]
      by_cases ha : a ∈ d.amounts
      · refine ⟨(k.part a).toNat, ?_, booked_unbook ha⟩
        rw [used_unbook ha, Quantity.toNat_subSat]
      · rw [Device.unbook_of_notMem ha]
        exact ⟨0, (Nat.sub_zero _).symm, (Nat.zero_add _).symm⟩
  | age time =>
      refine .inr ⟨0, ?_, ?_⟩
      · rw [Device.Change.perform, used_age, Nat.sub_zero]
      · rw [Device.Change.perform, booked_age, Nat.zero_add]

/-! ### Counters that cover less -/

/-- Nothing is counted that is not booked. -/
def Covered (k : Counter) (d : Device) : Prop :=
  (k.used d).toNat ≤ k.booked d

/-- What is counted is what is booked. -/
def Exact (k : Counter) (d : Device) : Prop :=
  (k.used d).toNat = k.booked d

/-- A counter that is right counts nothing that is not booked. -/
theorem Exact.covered (h : k.Exact d) : k.Covered d :=
  le_of_eq h

/-- **One change** counts nothing that it does not book. -/
theorem Covered.perform (h : k.Covered d) (c : Device.Change) : k.Covered (c.perform d) := by
  rw [Covered] at h ⊢
  rcases k.perform_cases c d with ⟨more, hused, hbooked⟩ | ⟨gone, hused, hbooked⟩
  · omega
  · omega

/-- **Whole runs** count nothing that they do not book. -/
theorem Covered.run (h : k.Covered d) (changes : List Device.Change) :
    k.Covered (d.run changes) := by
  induction changes generalizing d with
  | nil => exact h
  | cons c rest ih => exact ih (h.perform c)

/-- A counter of nothing booked is at zero. -/
theorem Covered.exact_of_booked_eq_zero (h : k.Covered d) (hnone : k.booked d = 0) : k.Exact d := by
  rw [Covered, hnone] at h
  rw [Exact, hnone]
  omega

/-- **Idle** is a device on which nothing is booked, if nothing is counted that is not booked. -/
theorem idle_iff_of_covered (h : ∀ k : Counter, k.Covered d) : d.Idle ↔ d.bookings = [] := by
  refine ⟨fun hidle => hidle.2.2, fun hnone => ?_⟩
  have hbooked : ∀ k : Counter, k.booked d = 0 := by
    intro k
    rw [booked, Device.amounts, hnone]
    rfl
  have hused : ∀ k : Counter, k.used d = 0 := fun k =>
    UInt64.toNat_inj.mp (((h k).exact_of_booked_eq_zero (hbooked k)).trans (hbooked k))
  exact ⟨hused cores, hused memory, hnone⟩

/-! ### Counters that are right -/

/-- **One change** keeps a counter right as long as the total fits a quantity. -/
theorem Exact.perform (h : k.Exact d) {c : Device.Change}
    (hfits : k.booked (c.perform d) < UInt64.size) : k.Exact (c.perform d) := by
  rw [Exact] at h ⊢
  rcases k.perform_cases c d with ⟨more, hused, hbooked⟩ | ⟨gone, hused, hbooked⟩
  · omega
  · omega

/-- What a counter has lost it does not get back, unless nothing is left of what it counts. -/
theorem Covered.exact_of_perform (h : k.Covered d) {c : Device.Change}
    (hexact : k.Exact (c.perform d)) : k.Exact d ∨ k.booked (c.perform d) = 0 := by
  rw [Covered] at h
  rw [Exact] at hexact ⊢
  rcases k.perform_cases c d with ⟨more, hused, hbooked⟩ | ⟨gone, hused, hbooked⟩
  · -- The counter is right afterwards, so it did not stop on its way up.
    omega
  · -- It fell by all that is gone, unless it stopped at zero.
    omega

/-- At no time during a run does the total of what is booked exceed the greatest quantity. -/
def Fits (k : Counter) (changes : List Device.Change) (d : Device) : Prop :=
  ∀ before, before <+: changes → k.booked (d.run before) < UInt64.size

/-- Where nothing changes, the total is never more than it is now. -/
theorem fits_nil (h : k.booked d < UInt64.size) : k.Fits [] d := by
  intro before hbefore
  obtain rfl := List.prefix_nil.mp hbefore
  exact h

/-- A run followed by one more change. -/
theorem Fits.append_singleton {changes : List Device.Change} (h : k.Fits changes d)
    {c : Device.Change} (hlast : k.booked (d.run (changes ++ [c])) < UInt64.size) :
    k.Fits (changes ++ [c]) d := by
  intro before hbefore
  rcases List.prefix_concat_iff.mp hbefore with rfl | hbefore
  · exact hlast
  · exact h before hbefore

/-- **Whole runs** keep a counter right as long as the total fits. -/
theorem Exact.run (h : k.Exact d) {changes : List Device.Change} (hfits : k.Fits changes d) :
    k.Exact (d.run changes) := by
  induction changes generalizing d with
  | nil => exact h
  | cons c rest ih =>
      have hfirst : k.booked (c.perform d) < UInt64.size :=
        hfits [c] (List.prefix_append [c] rest)
      refine ih (h.perform hfirst) fun before hbefore => ?_
      exact hfits (c :: before) (List.cons_prefix_cons.mpr ⟨rfl, hbefore⟩)

/-- Since the total was last zero it has not exceeded the greatest quantity. -/
def FitsSinceNone (k : Counter) (changes : List Device.Change) (d : Device) : Prop :=
  ∃ before after, changes = before ++ after ∧ k.booked (d.run before) = 0 ∧
    k.Fits after (d.run before)

/-- **When a counter is right**: exactly if the total has fitted since it was last zero. -/
theorem exact_run_iff (h : k.Exact d) (hnone : k.booked d = 0) (changes : List Device.Change) :
    k.Exact (d.run changes) ↔ k.FitsSinceNone changes d := by
  constructor
  · induction changes using List.reverseRecOn with
    | nil => exact fun _ => ⟨[], [], rfl, hnone, fits_nil (hnone.trans_lt (by decide))⟩
    | append_singleton changes c ih =>
        intro hexact
        have hlast : d.run (changes ++ [c]) = c.perform (d.run changes) := d.run_append changes [c]
        have hsmall : k.booked (d.run (changes ++ [c])) < UInt64.size := by
          rw [← hexact]
          exact UInt64.toNat_lt _
        rw [hlast] at hexact
        rcases (h.covered.run changes).exact_of_perform hexact with hright | hzero
        · obtain ⟨before, after, rfl, hbefore, hfits⟩ := ih hright
          refine ⟨before, after ++ [c], (List.append_assoc ..), hbefore, ?_⟩
          refine hfits.append_singleton ?_
          rwa [← Device.run_append, ← List.append_assoc]
        · rw [← hlast] at hzero
          exact ⟨changes ++ [c], [], (List.append_nil _).symm, hzero,
            fits_nil (hzero.trans_lt (by decide))⟩
  · rintro ⟨before, after, rfl, hbefore, hfits⟩
    rw [Device.run_append]
    exact ((h.covered.run before).exact_of_booked_eq_zero hbefore).run hfits

end Counter

/-! ### Devices that were idle -/

/-- The counters of a device as it is made are right. -/
theorem Counter.exact_new (k : Counter) (id : DeviceId) (totalCores totalMemory : Quantity) :
    k.Exact { id, totalCores, totalMemory } ∧
      k.booked { id, totalCores, totalMemory } = 0 := by
  cases k <;> exact ⟨rfl, rfl⟩

/-- **No phantom usage.** Whatever is booked on a device and given back, in any amounts, no counter
ever says more than what is booked, and it says exactly that as long as the total has not exceeded
the greatest quantity. So the device is idle whenever nothing is booked on it. -/
theorem no_phantom_usage (id : DeviceId) (totalCores totalMemory : Quantity)
    (changes : List Device.Change) :
    let start : Device := { id, totalCores, totalMemory }
    let d := start.run changes
    (∀ k : Counter, (k.used d).toNat ≤ k.booked d ∧
      (k.Fits changes start → (k.used d).toNat = k.booked d)) ∧
    (d.Idle ↔ d.bookings = []) := by
  intro start d
  have hstart : ∀ k : Counter, k.Exact start := fun k =>
    (k.exact_new id totalCores totalMemory).1
  have hcovered : ∀ k : Counter, k.Covered d := fun k => (hstart k).covered.run changes
  exact ⟨fun k => ⟨hcovered k, (hstart k).run⟩, Counter.idle_iff_of_covered hcovered⟩

/-- Two bookings that together exceed the greatest quantity, and both of them given back. The
counter loses something in between, and the device is idle at the end. -/
theorem no_phantom_usage_saturated :
    let huge : Amount := ⟨0, Quantity.greatest, 0⟩
    let small : Amount := ⟨0, 5, 0⟩
    let start : Device := { id := 0, totalCores := 100, totalMemory := 100 }
    let between := start.run [.book huge, .book small, .unbook small]
    let last := start.run [.book huge, .book small, .unbook small, .unbook huge]
    (between.usedMemory.toNat < Counter.memory.booked between ∧ ¬ between.Idle) ∧ last.Idle := by
  intro huge small start between last
  refine ⟨by decide, ?_⟩
  exact (no_phantom_usage 0 100 100 [.book huge, .book small, .unbook small, .unbook huge]).2.mpr
    (by decide)

/-- **When free capacity is over-reported.** What a device reports as free is never less than what
is free. It is no more than that exactly if the total of what is booked has not exceeded the
greatest quantity since it was last zero, or if the counter, right or wrong, stands at the capacity
or above, so that nothing is reported as free. -/
theorem free_capacity_decided (id : DeviceId) (totalCores totalMemory : Quantity)
    (changes : List Device.Change) (k : Counter) :
    let start : Device := { id, totalCores, totalMemory }
    let d := start.run changes
    (k.capacity start).toNat - k.booked d ≤ (k.free d).toNat ∧
    ((k.free d).toNat ≤ (k.capacity start).toNat - k.booked d ↔
      k.FitsSinceNone changes start ∨ k.capacity start ≤ k.used d) := by
  intro start d
  obtain ⟨hstart, hnone⟩ := k.exact_new id totalCores totalMemory
  have hcovered : (k.used d).toNat ≤ k.booked d := hstart.covered.run changes
  have hfree := k.toNat_free d
  rw [show k.capacity d = k.capacity start from k.capacity_run changes start] at hfree
  rw [← Counter.exact_run_iff hstart hnone, Counter.Exact, UInt64.le_iff_toNat_le, hfree]
  constructor
  · omega
  · change _ ↔ (k.used d).toNat = k.booked d ∨ _
    omega

/-- **A device that over-reports what is free.** A booking of as many cores as can be counted hides
one of a single core, and when it is given back, that one is not counted any more. -/
theorem freed_counter_forgets :
    let huge : Amount := ⟨Quantity.greatest, 0, 0⟩
    let single : Amount := ⟨1, 0, 0⟩
    let start : Device := { id := 0, totalCores := 100, totalMemory := 100 }
    let d := start.run [.book huge, .book single, .unbook huge]
    d.amounts = [single] ∧ d.allocatableCores = 100 ∧
      ¬ d.allocatableCores.toNat ≤ start.totalCores.toNat - Counter.cores.booked d := by
  decide

end GpuLedger
