import GpuLedger.Proofs.Places
import Mathlib.Data.Nat.Basic
import Mathlib.Order.Compare

/-!
# Chains of Keys

A chain of keys sees of a device only the values of its keys, in the order of the chain
(`Order.values`), and it compares devices like these lists are compared from the left: the first
value that differs decides (`Order.compare_eq_lt_iff`). This is said of every chain, whichever keys
it has, how often, and in which order; the chain without keys leaves all devices equal.

What sorting by a chain does is put together here from the lemmas about sorted devices
(`GpuLedger.Proofs.Sorting`) and about their places (`GpuLedger.Proofs.Places`).

## Main results

* `Order.compare_eq_lt_iff`, `Order.compare_eq_eq_iff_values` — comparing is lexicographic;
* `chains_sort_stably` — comparing is a total preorder, and sorting by it is stable.
-/

namespace GpuLedger

/-- The value by which a key orders a device. -/
def Key.value : Key → Device → Nat
  | cores, d => d.allocatableCores.toNat
  | memory, d => d.allocatableMemory.toNat
  | id, d => d.id.toNat

/-- A key compares devices by their values. -/
theorem Key.compare_eq (key : Key) (a b : Device) :
    key.compare a b = Ord.compare (key.value a) (key.value b) := by
  cases key with
  | cores => exact UInt64.compare_eq_toNat_compare_toNat _ _
  | memory => exact UInt64.compare_eq_toNat_compare_toNat _ _
  | id => exact UInt32.compare_eq_toNat_compare_toNat _ _

namespace Order

/-- What a chain of keys sees of a device. -/
def values (o : Order) (d : Device) : List Nat :=
  o.map (·.value d)

/-- **Comparing is lexicographic**: the first key that tells two devices apart decides. -/
theorem compare_eq_lt_iff {o : Order} {a b : Device} :
    o.compare a b = .lt ↔ o.values a < o.values b := by
  induction o with
  | nil => exact ⟨nofun, nofun⟩
  | cons key rest ih =>
      have hvalues : values (key :: rest) a < values (key :: rest) b ↔
          key.value a < key.value b ∨ key.value a = key.value b ∧ values rest a < values rest b :=
        List.cons_lt_cons_iff
      rw [compare, Ordering.then_eq_lt, ih, key.compare_eq, compare_lt_iff_lt, compare_eq_iff_eq,
        hvalues]

/-- A chain leaves two devices equal exactly when it sees the same of both. -/
theorem compare_eq_eq_iff_values {o : Order} {a b : Device} :
    o.compare a b = .eq ↔ o.values a = o.values b := by
  simp only [compare_eq_eq_iff, Key.compare_eq, compare_eq_iff_eq, values, List.map_inj_left]

end Order

/-- **Chains of keys order devices lawfully and sort them stably.** Whatever the keys of a chain
are, comparing two devices the other way round gives the opposite answer, the answers are
transitive, and they are those of the lexicographic order of the values that the keys have. Sorting
gives the same devices, none of them less than one in front of it; more precisely it lists the
places of the devices, each once, with those of equal devices as they came. And sorted by the
standard chain devices with distinct numbers stand in one order only, however they came. -/
theorem chains_sort_stably (o : Order) :
    (∀ a b, o.compare b a = (o.compare a b).swap) ∧
    (∀ a b c, (o.compare a b).isLE → (o.compare b c).isLE → (o.compare a c).isLE) ∧
    (∀ a b, (o.compare a b = .lt ↔ o.values a < o.values b) ∧
      (o.compare a b = .eq ↔ o.values a = o.values b)) ∧
    (∀ ds, (o.sort ds).Perm ds ∧
      (o.sort ds).Pairwise (fun earlier later => o.compare later earlier ≠ .lt) ∧
      ∃ places, o.Lists (fun _ => True) ds places ∧
        (o.sort ds).map some = places.map (ds[·]?)) ∧
    ∀ ds es, ds.Perm es → (ds.map Device.id).Nodup →
      Order.standard.sort ds = Order.standard.sort es := by
  refine ⟨fun a b => Std.OrientedCmp.eq_swap, fun a b c => Std.TransCmp.isLE_trans,
    fun a b => ⟨Order.compare_eq_lt_iff, Order.compare_eq_eq_iff_values⟩,
    fun ds => ⟨Order.sort_perm o ds, ?_, ?_⟩, fun ds es => Order.sort_eq_of_perm (by decide)⟩
  · refine (Order.sorted_sort o ds).imp fun {a b} hle hlt => ?_
    exact Ordering.isLE_iff_ne_gt.mp hle (Std.OrientedCmp.gt_of_lt hlt)
  · obtain ⟨places, hlists, hmap⟩ := Order.exists_lists o (fun _ => True) ds
    have hall : ds.filter (fun _ => decide True) = ds := List.filter_eq_self.mpr fun _ _ => rfl
    rw [hall] at hmap
    exact ⟨places, hlists, hmap⟩

/-- Four devices in two pairs, each of which has as many cores left. By this key alone the pairs
change places and each of them stays as it came; by the standard chain the devices stand in one
order, and in the same one if they come the other way round. -/
theorem chains_sort_stably_pairs :
    let device (id : DeviceId) (cores memory : Quantity) : Device :=
      { id, totalCores := cores, totalMemory := memory }
    let ds := [device 4 30 30, device 2 30 30, device 7 5 60, device 9 5 20]
    Order.sort [.cores] ds = [device 7 5 60, device 9 5 20, device 4 30 30, device 2 30 30] ∧
    (Order.compare [.cores] (device 9 5 20) (device 4 30 30)).isLE ∧
    (Order.compare [.cores] (device 4 30 30) (device 2 30 30)).isLE ∧
    (Order.compare [.cores] (device 9 5 20) (device 2 30 30)).isLE ∧
    ds.Perm ds.reverse ∧ (ds.map Device.id).Nodup ∧
    Order.standard.sort ds = Order.standard.sort ds.reverse := by
  intro device ds
  obtain ⟨-, htrans, -, -, hstandard⟩ := chains_sort_stably [.cores]
  have hperm : ds.Perm ds.reverse := ds.reverse_perm.symm
  have hids : (ds.map Device.id).Nodup := by decide
  have hfirst : (Order.compare [.cores] (device 9 5 20) (device 4 30 30)).isLE := by decide
  have hsecond : (Order.compare [.cores] (device 4 30 30) (device 2 30 30)).isLE := by decide
  exact ⟨by decide, hfirst, hsecond, htrans _ _ _ hfirst hsecond, hperm, hids,
    hstandard ds ds.reverse hperm hids⟩

end GpuLedger
