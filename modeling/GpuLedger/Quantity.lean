/-!
# Quantities

Cores, memory, time and counts are words of 64 bits. Bookings never wrap: a sum past the
largest word stays at it (`Quantity.addSat`), a difference below zero stays at zero
(`Quantity.subSat`). Totals over a whole node are exact or absent (`Quantity.sum?`).

## Main results

`toNat_addSat` and `toNat_subSat` read both operations as clamped sums and differences of
natural numbers, and `sum?_eq_some_iff` says that a total exists exactly when it fits.
-/

namespace GpuLedger

/-- An amount of cores, of memory or of time, or a count of things: a word of 64 bits. -/
abbrev Quantity := UInt64

namespace Quantity

/-- The largest quantity, one less than the number of words. -/
def greatest : Quantity := 0xFFFFFFFFFFFFFFFF

/-- The sum of two quantities, or the greatest quantity where the sum does not fit. -/
def addSat (a b : Quantity) : Quantity :=
  if a.toNat + b.toNat < UInt64.size then a + b else greatest

/-- The difference of two quantities, or zero where the second is the larger. -/
def subSat (a b : Quantity) : Quantity :=
  if b ≤ a then a - b else 0

/-- The exact total of a list of quantities, of any size. -/
def total : List Quantity → Nat
  | [] => 0
  | q :: rest => q.toNat + total rest

/-- The exact total of a list of quantities, if it fits a quantity. -/
def sum? (qs : List Quantity) : Option Quantity :=
  if total qs < UInt64.size then some (UInt64.ofNat (total qs)) else none

/-- The magnitude of the least signed word of 64 bits, one more than the largest such word. -/
def signedBound : Nat := 0x8000000000000000

/-! ### Reading the operations in the natural numbers -/

/-- Adding clamps the natural sum at the greatest quantity. -/
theorem toNat_addSat (a b : Quantity) :
    (addSat a b).toNat = min (a.toNat + b.toNat) (UInt64.size - 1) := by
  have ha := a.toNat_lt
  have hb := b.toNat_lt
  unfold addSat
  split
  · rw [UInt64.toNat_add]
    simp only [UInt64.size] at *
    omega
  · simp only [greatest, UInt64.size, UInt64.reduceToNat] at *
    omega

/-- Subtracting is the truncated subtraction of natural numbers. -/
theorem toNat_subSat (a b : Quantity) : (subSat a b).toNat = a.toNat - b.toNat := by
  unfold subSat
  split
  · next h => exact UInt64.toNat_sub_of_le a b h
  · next h =>
    have : ¬ b.toNat ≤ a.toNat := fun h' => h (UInt64.le_iff_toNat_le.2 h')
    simp only [UInt64.toNat_zero]
    omega

/-- A total exists as a quantity exactly when it fits, and then it is that total. -/
theorem sum?_eq_some_iff {qs : List Quantity} {t : Quantity} :
    sum? qs = some t ↔ total qs = t.toNat := by
  have ht := t.toNat_lt
  unfold sum?
  constructor
  · intro h
    by_cases hfit : total qs < UInt64.size
    · simp only [hfit, if_true, Option.some.injEq] at h
      rw [← h, UInt64.toNat_ofNat', Nat.mod_eq_of_lt hfit]
    · simp [hfit] at h
  · intro h
    have hfit : t.toNat < UInt64.size := ht
    simp only [h, hfit, if_true, UInt64.ofNat_toNat]

end Quantity

end GpuLedger
