import GpuLedger.Proofs.Sorting

/-!
# Places of Sorted Devices

A sorted list of devices forgets where in the input each of them stood, and where two devices are
the same in every field it cannot tell which of them it lists first. The places can: `Order.Lists`
says which list of them is the sorted one, by the order of the devices there and, among equals, by
the order of the places themselves. There is exactly one for the devices of some kind in a list
(`Order.Lists.unique`), and sorting the devices of this kind lists what stands there
(`Order.exists_lists`).

This is what it means that sorting loses nothing, repeats nothing and is stable, also for devices
that occur twice.
-/

namespace GpuLedger

namespace Order

/-- Of two places in a list of devices, the first is listed before the second: its device is less,
or equal and came first. -/
def Precedes (o : Order) (ds : List Device) (i j : Nat) : Prop :=
  ∀ d e, ds[i]? = some d → ds[j]? = some e →
    o.compare d e = .lt ∨ o.compare d e = .eq ∧ i < j

/-- The places at which a list has devices of some kind, in the order in which a chain of keys
lists these devices. -/
structure Lists (o : Order) (p : Device → Prop) (ds : List Device) (places : List Nat) : Prop where
  /-- No place is listed twice. -/
  nodup : places.Nodup
  /-- The places of all devices of the kind are listed, and no other. -/
  mem_iff : ∀ i, i ∈ places ↔ ∃ d, ds[i]? = some d ∧ p d
  /-- They are listed in order, and places of equal devices as they came. -/
  ordered : places.Pairwise (o.Precedes ds)

variable {o : Order} {p : Device → Prop} {ds : List Device}

/-! ### Uniqueness -/

/-- Of two places at most one precedes the other. -/
theorem Precedes.asymm {i j : Nat} {d e : Device} (hd : ds[i]? = some d) (he : ds[j]? = some e)
    (h : o.Precedes ds i j) : ¬ o.Precedes ds j i := by
  intro h'
  have hswap : o.compare e d = (o.compare d e).swap := Std.OrientedCmp.eq_swap
  rcases h d e hd he with hlt | ⟨heq, hij⟩
  · rw [hlt] at hswap
    rcases h' e d he hd with hlt' | ⟨heq', -⟩
    · exact absurd (hlt'.symm.trans hswap) nofun
    · exact absurd (heq'.symm.trans hswap) nofun
  · rw [heq] at hswap
    rcases h' e d he hd with hlt' | ⟨-, hji⟩
    · exact absurd (hlt'.symm.trans hswap) nofun
    · omega

/-- **The list of places is determined** by the chain, the kind and the devices. -/
theorem Lists.unique {xs ys : List Nat} (hx : o.Lists p ds xs) (hy : o.Lists p ds ys) :
    xs = ys := by
  have hperm : xs.Perm ys := (List.perm_ext_iff_of_nodup hx.nodup hy.nodup).mpr fun i =>
    (hx.mem_iff i).trans (hy.mem_iff i).symm
  refine List.Perm.eq_of_pairwise (fun i j hi hj hij hji => ?_) hx.ordered hy.ordered hperm
  obtain ⟨d, hd, -⟩ := (hx.mem_iff i).mp hi
  obtain ⟨e, he, -⟩ := (hy.mem_iff j).mp hj
  exact absurd hji (hij.asymm hd he)

/-! ### One more device in front -/

/-- A device in front moves both places by one. -/
@[simp]
theorem precedes_cons {d : Device} {i j : Nat} :
    o.Precedes (d :: ds) (i + 1) (j + 1) ↔ o.Precedes ds i j := by
  simp only [Precedes, List.getElem?_cons_succ, Nat.add_lt_add_iff_right]

/-- Behind a device in front, the places of a kind are those from before, moved by one. -/
theorem Lists.succ_mem_map {places : List Nat} (h : o.Lists p ds places) (d : Device) (i : Nat) :
    i + 1 ∈ places.map (· + 1) ↔ ∃ e, (d :: ds)[i + 1]? = some e ∧ p e := by
  rw [List.getElem?_cons_succ, ← h.mem_iff]
  simp

/-- A device of another kind in front only moves the places. -/
theorem Lists.cons_of_neg {places : List Nat} (h : o.Lists p ds places) {d : Device}
    (hd : ¬ p d) : o.Lists p (d :: ds) (places.map (· + 1)) where
  nodup := h.nodup.map fun _ _ => Nat.succ.inj
  mem_iff
    | 0 => by simp [hd]
    | i + 1 => h.succ_mem_map d i
  ordered := List.pairwise_map.mpr (h.ordered.imp precedes_cons.mpr)

/-- A device of the kind in front is listed behind those that are less, and before its equals. -/
theorem Lists.cons_of_pos {before after : List Nat} (h : o.Lists p ds (before ++ after))
    {d : Device} (hd : p d) (hbefore : ∀ i ∈ before, ∀ e, ds[i]? = some e → o.compare e d = .lt)
    (hafter : ∀ i ∈ after, ∀ e, ds[i]? = some e → (o.compare d e).isLE) :
    o.Lists p (d :: ds) (before.map (· + 1) ++ 0 :: after.map (· + 1)) where
  nodup := by
    rw [List.nodup_middle, ← List.map_append]
    exact List.nodup_cons.mpr ⟨by simp, h.nodup.map fun _ _ => Nat.succ.inj⟩
  mem_iff
    | 0 => by simp [hd]
    | i + 1 => by
      rw [← h.succ_mem_map d i, List.map_append]
      simp
  ordered := by
    obtain ⟨hfront, hback, hcross⟩ := List.pairwise_append.mp h.ordered
    refine List.pairwise_append.mpr ⟨?_, List.pairwise_cons.mpr ⟨?_, ?_⟩, ?_⟩
    · exact List.pairwise_map.mpr (hfront.imp precedes_cons.mpr)
    · intro j hj x e hx he
      obtain ⟨k, hk, rfl⟩ := List.mem_map.mp hj
      obtain rfl : d = x := Option.some.inj hx
      have hle := hafter k hk e he
      cases hcompare : o.compare d e with
      | lt => exact .inl rfl
      | eq => exact .inr ⟨rfl, Nat.succ_pos k⟩
      | gt => rw [hcompare] at hle; cases hle
    · exact List.pairwise_map.mpr (hback.imp precedes_cons.mpr)
    · intro i hi j hj
      obtain ⟨k, hk, rfl⟩ := List.mem_map.mp hi
      rcases List.mem_cons.mp hj with rfl | hj
      · intro e x he hx
        obtain rfl : d = x := Option.some.inj hx
        exact .inl (hbefore k hk e he)
      · obtain ⟨l, hl, rfl⟩ := List.mem_map.mp hj
        exact precedes_cons.mpr (hcross k hk l hl)

/-! ### Sorting -/

/-- A device is placed behind those that are less and before all others. -/
theorem Sorted.place_eq_append {es : List Device} (h : o.Sorted es) (d : Device) :
    ∃ before after, es = before ++ after ∧ o.place d es = before ++ d :: after ∧
      (∀ e ∈ before, o.compare e d = .lt) ∧ ∀ e ∈ after, (o.compare d e).isLE := by
  induction es with
  | nil => exact ⟨[], [], rfl, rfl, nofun, nofun⟩
  | cons e rest ih =>
      obtain ⟨he, hrest⟩ := List.pairwise_cons.mp h
      rw [Order.place]
      split
      · next hgt =>
        obtain ⟨before, after, hsplit, hplace, hbefore, hafter⟩ := ih hrest
        refine ⟨e :: before, after, ?_, ?_, ?_, hafter⟩
        · rw [hsplit, List.cons_append]
        · rw [hplace, List.cons_append]
        · exact List.forall_mem_cons.mpr ⟨Std.OrientedCmp.lt_of_gt hgt, hbefore⟩
      · next hle =>
        have hde : (o.compare d e).isLE := Ordering.isLE_iff_ne_gt.mpr hle
        refine ⟨[], e :: rest, rfl, rfl, nofun, List.forall_mem_cons.mpr ⟨hde, fun x hx => ?_⟩⟩
        exact Std.TransCmp.isLE_trans hde (he x hx)

/-- **Sorting lists places**: sorting the devices of a kind gives what stands at their places. -/
theorem exists_lists (o : Order) (p : Device → Prop) [DecidablePred p] (ds : List Device) :
    ∃ places, o.Lists p ds places ∧
      (o.sort (ds.filter p)).map some = places.map (ds[·]?) := by
  induction ds with
  | nil => exact ⟨[], ⟨.nil, by simp, .nil⟩, rfl⟩
  | cons d rest ih =>
      obtain ⟨places, hlists, hmap⟩ := ih
      by_cases hd : p d
      · -- The sorted rest is cut where the device goes, and its places are cut at the same point.
        obtain ⟨before, after, hsplit, hplace, hbefore, hafter⟩ :=
          (sorted_sort o (rest.filter p)).place_eq_append d
        rw [hsplit, List.map_append, eq_comm, List.map_eq_append_iff] at hmap
        obtain ⟨front, back, rfl, hfront, hback⟩ := hmap
        refine ⟨_, hlists.cons_of_pos hd (fun i hi e he => ?_) (fun i hi e he => ?_), ?_⟩
        · have hmem : some e ∈ before.map some := by
            rw [← hfront, ← he]
            exact List.mem_map_of_mem hi
          exact hbefore e (by simpa using hmem)
        · have hmem : some e ∈ after.map some := by
            rw [← hback, ← he]
            exact List.mem_map_of_mem hi
          exact hafter e (by simpa using hmem)
        · have hsort : o.sort ((d :: rest).filter p) = before ++ d :: after := by
            rw [List.filter_cons_of_pos (by simpa using hd)]
            exact hplace
          rw [hsort, List.map_append, List.map_append, List.map_cons, List.map_cons, ← hfront,
            ← hback, List.map_map, List.map_map]
          rfl
      · refine ⟨_, hlists.cons_of_neg hd, ?_⟩
        rw [List.filter_cons_of_neg (by simpa using hd), hmap, List.map_map]
        rfl

end Order

end GpuLedger
