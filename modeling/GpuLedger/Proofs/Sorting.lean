import GpuLedger.Proofs.Choice

/-!
# Sorted Devices

A chain of keys compares devices lawfully whatever its keys are: comparing the other way round
gives the opposite answer, and the answers are transitive (`Order.compare` is a `Std.TransCmp`).
Sorting by such a chain therefore puts devices into an order in which no one stands behind a
greater one (`Order.sorted_sort`), and leaving devices out before or after it makes no difference
(`Order.filter_sort`).

A chain that asks for the number of a device leaves no two devices of different numbers equal.
Where numbers are distinct there is then only one sorted list of the devices, so the order in
which they came does not matter (`Order.sort_eq_of_perm`).
-/

namespace GpuLedger

instance (key : Key) : Std.TransCmp key.compare := by
  cases key with
  | cores => exact inferInstanceAs (Std.TransCmp (compareOn Device.allocatableCores))
  | memory => exact inferInstanceAs (Std.TransCmp (compareOn Device.allocatableMemory))
  | id => exact inferInstanceAs (Std.TransCmp (compareOn Device.id))

namespace Order

/-- A chain compares by its first key, and by the rest of it where that key does not decide. -/
theorem compare_cons (key : Key) (rest : Order) :
    compare (key :: rest) = compareLex key.compare (compare rest) :=
  rfl

instance (o : Order) : Std.TransCmp o.compare := by
  induction o with
  | nil => exact { eq_swap := rfl, isLE_trans := fun _ _ => rfl }
  | cons key rest ih =>
      rw [compare_cons]
      infer_instance

/-- A chain leaves two devices equal exactly when all of its keys do. -/
theorem compare_eq_eq_iff {o : Order} {a b : Device} :
    o.compare a b = .eq ↔ ∀ key ∈ o, key.compare a b = .eq := by
  induction o with
  | nil => simp [compare]
  | cons key rest ih => rw [compare, Ordering.then_eq_eq, ih, List.forall_mem_cons]

/-- No device stands behind a greater one. -/
def Sorted (o : Order) (ds : List Device) : Prop :=
  ds.Pairwise fun a b => (o.compare a b).isLE

/-- A device put into a sorted list leaves it sorted. -/
theorem Sorted.place {o : Order} {ds : List Device} (h : o.Sorted ds) (d : Device) :
    o.Sorted (o.place d ds) := by
  induction ds with
  | nil => exact List.pairwise_singleton _ d
  | cons e rest ih =>
      obtain ⟨he, hrest⟩ := List.pairwise_cons.mp h
      rw [Order.place]
      split
      · next hgt =>
        have hed : (o.compare e d).isLE := by
          have hswap : o.compare e d = (o.compare d e).swap := Std.OrientedCmp.eq_swap
          rw [hswap, hgt]
          rfl
        refine List.pairwise_cons.mpr ⟨fun x hx => ?_, ih hrest⟩
        rcases List.mem_cons.mp ((place_perm o d rest).mem_iff.mp hx) with rfl | hx
        · exact hed
        · exact he x hx
      · next hle =>
        have hde : (o.compare d e).isLE := Ordering.isLE_iff_ne_gt.mpr hle
        refine List.pairwise_cons.mpr ⟨fun x hx => ?_, h⟩
        rcases List.mem_cons.mp hx with rfl | hx
        · exact hde
        · exact Std.TransCmp.isLE_trans hde (he x hx)

/-- **Sorting sorts**, by any chain of keys. -/
theorem sorted_sort (o : Order) (ds : List Device) : o.Sorted (o.sort ds) := by
  induction ds with
  | nil => exact .nil
  | cons d rest ih => exact ih.place d

/-- A device that exceeds none of a list comes to stand in front of it. -/
theorem place_eq_cons {o : Order} {d : Device} {ds : List Device}
    (h : ∀ e ∈ ds, (o.compare d e).isLE) : o.place d ds = d :: ds := by
  cases ds with
  | nil => rfl
  | cons e rest => exact if_neg (Ordering.isLE_iff_ne_gt.mp (h e List.mem_cons_self))

/-- Devices may be left out before or after another one is put into a sorted list. -/
theorem filter_place {o : Order} {ds : List Device} (h : o.Sorted ds) (p : Device → Bool)
    (d : Device) :
    (o.place d ds).filter p = if p d then o.place d (ds.filter p) else ds.filter p := by
  induction ds with
  | nil => exact List.filter_cons
  | cons e rest ih =>
      obtain ⟨he, hrest⟩ := List.pairwise_cons.mp h
      rw [place]
      split
      · next hgt =>
        rw [List.filter_cons, ih hrest, List.filter_cons]
        cases p d with
        | false => rfl
        | true => cases p e <;> simp [place, hgt]
      · next hle =>
        -- The device stands in front of the whole list, and so of what is kept of it.
        have hde : (o.compare d e).isLE := Ordering.isLE_iff_ne_gt.mpr hle
        have hall : ∀ x ∈ (e :: rest).filter p, (o.compare d x).isLE := by
          intro x hx
          rcases List.mem_cons.mp (List.mem_of_mem_filter hx) with rfl | hx
          · exact hde
          · exact Std.TransCmp.isLE_trans hde (he x hx)
        rw [List.filter_cons, place_eq_cons hall]

/-- **Sorting and leaving devices out** can be done in either order. -/
theorem filter_sort (o : Order) (p : Device → Bool) (ds : List Device) :
    (o.sort ds).filter p = o.sort (ds.filter p) := by
  induction ds with
  | nil => rfl
  | cons d rest ih =>
      have hplace : (o.place d (o.sort rest)).filter p = _ := filter_place (sorted_sort o rest) p d
      refine hplace.trans ?_
      rw [ih, List.filter_cons]
      split <;> rfl

/-- **The order of the input does not matter** where numbers are distinct and the chain asks for
them. -/
theorem sort_eq_of_perm {o : Order} (hid : Key.id ∈ o) {ds es : List Device} (h : ds.Perm es)
    (hids : (ds.map Device.id).Nodup) : o.sort ds = o.sort es := by
  refine List.Perm.eq_of_pairwise (fun a b ha hb hab hba => ?_) (sorted_sort o ds)
    (sorted_sort o es) (((sort_perm o ds).trans h).trans (sort_perm o es).symm)
  have hsame : a.id = b.id := by
    have heq : o.compare a b = .eq := Std.OrientedCmp.isLE_antisymm hab hba
    exact Std.LawfulEqOrd.eq_of_compare (compare_eq_eq_iff.mp heq .id hid)
  have ha' : a ∈ ds := (sort_perm o ds).mem_iff.mp ha
  have hb' : b ∈ ds := h.mem_iff.mpr ((sort_perm o es).mem_iff.mp hb)
  exact List.inj_on_of_nodup_map hids ha' hb' hsame

end Order

end GpuLedger
