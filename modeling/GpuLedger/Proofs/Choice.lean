import GpuLedger.Ledger
import Mathlib.Data.List.Nodup
import Mathlib.Data.List.Perm.Basic

/-!
# Chosen Devices

What may be said of the devices that a request is placed on without looking at scores: they are
devices of the list they are chosen from, and each meets the condition of its way of being placed. A
shared placement takes one device, which under the capacity filter has room for the request
(`Share.of_choose?`), and it fails only where there is none (`Share.choose?_eq_none_iff`). An
exclusive placement takes vacant devices only (`Exclusive.of_mem_choose`), as many as it needs or
none at all (`Exclusive.length_choose`, `Exclusive.choose_eq_nil_iff`), and no number twice where
the numbers in the list are distinct (`Exclusive.nodup_choose`).
-/

namespace GpuLedger

namespace Order

/-- A device that is put into a list is added to it. -/
theorem place_perm (o : Order) (d : Device) (ds : List Device) :
    (o.place d ds).Perm (d :: ds) := by
  induction ds with
  | nil => exact .refl _
  | cons e rest ih =>
      rw [place]
      split
      · exact (ih.cons e).trans (.swap d e rest)
      · exact .refl _

/-- Sorting only reorders. -/
theorem sort_perm (o : Order) (ds : List Device) : (o.sort ds).Perm ds := by
  induction ds with
  | nil => exact .refl _
  | cons d rest ih => exact (place_perm o d _).trans (ih.cons d)

end Order

namespace Share

/-- The candidates are all devices, or under the filter those that have room. -/
theorem mem_candidates {filter : Bool} {ds : List Device} {r : Request} {d : Device} :
    d ∈ candidates filter ds r ↔ d ∈ ds ∧ (filter = true → HasRoom r d) := by
  rw [candidates]
  rw [(Order.sort_perm _ _).mem_iff, List.mem_filter]
  cases filter <;> simp

/-- What is ranked are candidates. -/
theorem device_mem_of_mem_rank {filter : Bool} {ds : List Device} {r : Request} {s : Scored}
    (h : s ∈ rank filter ds r) : s.device ∈ candidates filter ds r := by
  obtain ⟨i, hi⟩ := List.mem_iff_getElem?.mp h
  obtain ⟨d, score, hd, -, rfl⟩ := List.getElem?_zipWith_eq_some.mp hi
  exact List.mem_of_getElem? hd

/-- The best of several scored devices is one of them. -/
theorem mem_of_best? {ss : List Scored} {s : Scored} (h : best? ss = some s) : s ∈ ss := by
  cases ss with
  | nil => cases h
  | cons first rest =>
      simp only [best?, Option.some.injEq] at h
      subst h
      induction rest generalizing first with
      | nil => exact List.mem_cons_self
      | cons next rest ih =>
          rw [List.foldl_cons]
          rcases List.mem_cons.mp (ih (if first.closeness < next.closeness then next else first))
            with h | h
          · rw [h]
            split <;> simp
          · exact List.mem_cons_of_mem _ (List.mem_cons_of_mem _ h)

/-- **A shared placement** goes to a device of the list, which under the filter has room. -/
theorem of_choose? {filter : Bool} {ds : List Device} {r : Request} {d : Device}
    (h : choose? filter ds r = some d) : d ∈ ds ∧ (filter = true → HasRoom r d) := by
  obtain ⟨s, hs, rfl⟩ := Option.map_eq_some_iff.mp h
  exact mem_candidates.mp (device_mem_of_mem_rank (mem_of_best? hs))

/-- Every candidate is ranked. -/
theorem length_rank (filter : Bool) (ds : List Device) (r : Request) :
    (rank filter ds r).length = (candidates filter ds r).length := by
  have hscores : ∀ rows : List (Criteria Float), (scores rows).length = rows.length := by
    intro rows
    cases rows with
    | nil => rfl
    | cons first rest => exact List.length_map _
  simp only [rank, deviceScores, List.length_zipWith, hscores, List.length_map, Nat.min_self]

/-- **A shared placement fails** exactly if there is no candidate: no device at all, or under the
filter none that has room. -/
theorem choose?_eq_none_iff {filter : Bool} {ds : List Device} {r : Request} :
    choose? filter ds r = none ↔ if filter then ∀ d ∈ ds, ¬ HasRoom r d else ds = [] := by
  have hbest : ∀ ss : List Scored, best? ss = none ↔ ss = [] := by
    intro ss
    cases ss <;> simp [best?]
  rw [choose?, Option.map_eq_none_iff, hbest, ← List.length_eq_zero_iff, length_rank,
    List.length_eq_zero_iff, List.eq_nil_iff_forall_not_mem]
  simp only [mem_candidates, not_and, Classical.not_imp]
  cases filter with
  | false => simp [List.eq_nil_iff_forall_not_mem]
  | true => simp

end Share

namespace Exclusive

/-- The pool holds exactly the vacant devices. -/
theorem mem_pool {ds : List Device} {d : Device} : d ∈ pool ds ↔ d ∈ ds ∧ Vacant d := by
  rw [pool]
  rw [(Order.sort_perm _ _).mem_iff, List.mem_filter, decide_eq_true_eq]

/-- What is chosen comes from the front of the pool. -/
theorem choose_sublist (ds : List Device) (r : Request) :
    (choose ds r).Sublist (pool ds) := by
  rw [choose]
  split
  · exact List.nil_sublist _
  · exact List.take_sublist _ _

/-- **An exclusive placement** takes vacant devices of the list. -/
theorem of_mem_choose {ds : List Device} {r : Request} {d : Device} (h : d ∈ choose ds r) :
    d ∈ ds ∧ Vacant d :=
  mem_pool.mp ((choose_sublist ds r).subset h)

/-- Where numbers are distinct, they are distinct in the pool. -/
theorem nodup_pool {ds : List Device} (hids : (ds.map Device.id).Nodup) :
    ((pool ds).map Device.id).Nodup := by
  have hvacant : ((ds.filter fun d => decide (Vacant d)).map Device.id).Nodup :=
    hids.sublist ((List.filter_sublist).map Device.id)
  exact ((Order.sort_perm _ _).map Device.id).nodup_iff.mpr hvacant

/-- Where numbers are distinct, no number is chosen twice. -/
theorem nodup_choose {ds : List Device} (hids : (ds.map Device.id).Nodup) (r : Request) :
    ((choose ds r).map Device.id).Nodup :=
  (nodup_pool hids).sublist ((choose_sublist ds r).map Device.id)

/-- There are as many devices in the pool as there are vacant ones. -/
theorem length_pool (ds : List Device) :
    (pool ds).length = ds.countP fun d => decide (Vacant d) := by
  rw [pool, (Order.sort_perm _ _).length_eq, List.countP_eq_length_filter]

/-- **An exclusive placement fails** exactly if it needs more devices than are vacant. -/
theorem choose_eq_nil_iff {ds : List Device} {r : Request} (h : 0 < r.devicesNeeded) :
    choose ds r = [] ↔ (ds.countP fun d => decide (Vacant d)) < r.devicesNeeded := by
  rw [choose, length_pool]
  split
  · next hfew => exact iff_of_true rfl hfew
  · next hmany =>
    refine iff_of_false (fun hnil => ?_) hmany
    have hlength := congrArg List.length hnil
    rw [List.length_take, length_pool, List.length_nil] at hlength
    omega

/-- It takes as many devices as it needs, or none. -/
theorem length_choose {ds : List Device} {r : Request} (h : choose ds r ≠ []) :
    (choose ds r).length = r.devicesNeeded := by
  rw [choose] at h ⊢
  split at h
  · exact absurd rfl h
  · next hmany =>
    rw [if_neg hmany, List.length_take]
    omega

end Exclusive

namespace Policy

/-- Whatever the policy, what is chosen are devices of the list. -/
theorem mem_of_mem_choose {policy : Policy} {ds : List Device} {r : Request} {d : Device}
    (h : d ∈ policy.choose ds r) : d ∈ ds := by
  rw [choose] at h
  cases hmode : r.mode with
  | share =>
      rw [hmode] at h
      exact (Share.of_choose? (Option.mem_toList.mp h)).1
  | exclusive =>
      rw [hmode] at h
      exact (Exclusive.of_mem_choose h).1

/-- No place of the list is chosen twice. -/
theorem choose_subperm (policy : Policy) (ds : List Device) (r : Request) :
    (policy.choose ds r).Subperm ds := by
  rw [choose]
  cases r.mode with
  | share =>
      cases hchosen : Share.choose? policy.capacityFilter ds r with
      | none => exact List.nil_subperm
      | some d => exact List.singleton_subperm_iff.mpr (Share.of_choose? hchosen).1
  | exclusive =>
      refine (Exclusive.choose_sublist ds r).subperm.trans ?_
      exact (Order.sort_perm _ _).subperm.trans List.filter_sublist.subperm

end Policy

end GpuLedger
