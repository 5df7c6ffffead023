import GpuLedger.Proofs.Places
import Mathlib.Data.List.Induction
import Mathlib.Data.Prod.Lex
import Mathlib.Order.Bounds.Defs
import Mathlib.Order.Compare

/-!
# The Best of a Ranking

A shared placement ranks the candidates and takes the best of them. Both halves of this are made
precise here. The ranking has the candidates in their standard order, each once, with equal ones as
they came, and each keeps its own score on the way through filter, sort and scoring
(`Share.RankedFrom`). The choice keeps a running best while it goes through the ranking and replaces
it only by a candidate that exceeds it; what is left at the end is the first candidate that no other
exceeds (`Share.leads_best?`).

The second half needs more of the scores than their arithmetic gives away. Comparing floating-point
numbers is a strict weak order as long as none of them is the value that is not a number, because
they are then compared like their kinds, exponents and mantissas (`Share.height`); with that value
among them the scan would stick to whatever it met first.

## Main results

* `Share.lt_iff_height_lt` — numbers are compared by their heights;
* `Share.rank_eq_map` — the score of a candidate depends on its four values and those of the others;
* `Share.Leads.snoc`, `Share.leads_best?` — the invariant of the scan;
* `shared_choice_is_earliest_best` — what is ranked and what is chosen.
-/

namespace GpuLedger

namespace Share

open Float.Model

/-! ### Comparing scores -/

/-- Where a number stands among all numbers: by its kind and sign, then by its exponent and its
mantissa, which count the other way for a negative one. -/
def height : UnpackedFloat → ℤ ×ₗ ℤ ×ₗ ℤ
  | .infinity .negative => toLex (-2, toLex (0, 0))
  | .finite .negative mantissa exponent _ => toLex (-1, toLex (-exponent, -mantissa))
  | .zero _ => toLex (0, toLex (0, 0))
  | .finite .positive mantissa exponent _ => toLex (1, toLex (exponent, mantissa))
  | .infinity .positive => toLex (2, toLex (0, 0))
  | .notANumber => toLex (3, toLex (0, 0))

/-- A magnitude is the smaller one by its exponent, or by its mantissa if the exponents are equal.
-/
theorem compare_magnitudes_eq_lt {m n : ℕ} {e f : ℤ} :
    (compare e f).then (compare m n) = .lt ↔ e < f ∨ e = f ∧ m < n := by
  rw [Ordering.then_eq_lt, compare_lt_iff_lt, compare_eq_iff_eq, compare_lt_iff_lt]

/-- A magnitude is the larger one by its exponent, or by its mantissa if the exponents are equal. -/
theorem compare_magnitudes_eq_gt {m n : ℕ} {e f : ℤ} :
    (compare e f).then (compare m n) = .gt ↔ f < e ∨ e = f ∧ n < m := by
  rw [Ordering.then_eq_gt, compare_gt_iff_gt, compare_eq_iff_eq, compare_gt_iff_gt]

/-- What is below a number is what has a smaller height. -/
theorem unpacked_lt_iff {x y : UnpackedFloat} (hy : y.isNaN = false) :
    x.lt y = true ↔ height x < height y := by
  have hsign : compare UnpackedFloat.Sign.negative .positive = .lt := rfl
  rw [UnpackedFloat.lt, beq_iff_eq]
  rcases x with (_ | _) | _ | _ | ⟨_ | _, m, e, _⟩ <;>
    rcases y with (_ | _) | _ | _ | ⟨_ | _, n, f, _⟩ <;>
    first
    | (cases hy; done)
    | dsimp only [UnpackedFloat.compare, height]
      simp [Prod.Lex.toLex_lt_toLex, compare_magnitudes_eq_lt, compare_magnitudes_eq_gt,
        Ordering.swap_eq_lt, hsign]

/-- **Numbers are compared by their heights.** -/
theorem lt_iff_height_lt {a b : Float} (hb : b.isNaN = false) :
    a < b ↔ height a.toModel.unpack < height b.toModel.unpack := by
  rw [← unpacked_lt_iff hb]
  exact decide_eq_true_iff

/-- Being below is transitive among numbers. -/
theorem score_lt_trans {a b c : Float} (hb : b.isNaN = false) (hc : c.isNaN = false)
    (hab : a < b) (hbc : b < c) : a < c := by
  rw [lt_iff_height_lt hb] at hab
  rw [lt_iff_height_lt hc] at hbc
  exact (lt_iff_height_lt hc).mpr (hab.trans hbc)

/-- A number that is not above another one is below whatever that one is below. -/
theorem score_lt_of_not_lt {a b c : Float} (ha : a.isNaN = false) (hc : c.isNaN = false)
    (hba : ¬ b < a) (hbc : b < c) : a < c := by
  rw [lt_iff_height_lt ha] at hba
  rw [lt_iff_height_lt hc] at hbc
  exact (lt_iff_height_lt hc).mpr (lt_of_le_of_lt (not_lt.mp hba) hbc)

/-! ### The scan -/

/-- Every score is a number. -/
def Comparable (ss : List Scored) : Prop :=
  ∀ s ∈ ss, s.closeness.isNaN = false

instance (ss : List Scored) : Decidable (Comparable ss) :=
  inferInstanceAs (Decidable (∀ s ∈ ss, s.closeness.isNaN = false))

/-- A candidate that exceeds all before it in a list and is exceeded by none behind it. -/
def Leads (best : Scored) (ss : List Scored) : Prop :=
  ∃ before after, ss = before ++ best :: after ∧
    (∀ s ∈ before, s.closeness < best.closeness) ∧ ∀ s ∈ after, ¬ best.closeness < s.closeness

/-- **One more candidate**: it leads if it exceeds the one that led so far, which leads on
otherwise. -/
theorem Leads.snoc {best : Scored} {ss : List Scored} (h : Leads best ss) {s : Scored}
    (hnumbers : Comparable (ss ++ [s])) :
    Leads (if best.closeness < s.closeness then s else best) (ss ++ [s]) := by
  obtain ⟨before, after, rfl, hbefore, hafter⟩ := h
  split
  · next hlt =>
    have hs : s.closeness.isNaN = false := hnumbers s (by simp)
    have hbest : best.closeness.isNaN = false := hnumbers best (by simp)
    refine ⟨before ++ best :: after, [], rfl, fun u hu => ?_, nofun⟩
    have hnumber : u.closeness.isNaN = false := hnumbers u (List.mem_append_left _ hu)
    rcases List.mem_append.mp hu with hu | hu
    · exact score_lt_trans hbest hs (hbefore u hu) hlt
    · rcases List.mem_cons.mp hu with rfl | hu
      · exact hlt
      · exact score_lt_of_not_lt hnumber hs (hafter u hu) hlt
  · next hnot =>
    refine ⟨before, after ++ [s], ?_, hbefore, fun u hu => ?_⟩
    · rw [List.append_assoc, List.cons_append]
    · rcases List.mem_append.mp hu with hu | hu
      · exact hafter u hu
      · rw [List.mem_singleton.mp hu]
        exact hnot

/-- **The best of a list leads it.** -/
theorem leads_best? {ss : List Scored} {best : Scored} (h : best? ss = some best)
    (hnumbers : Comparable ss) : Leads best ss := by
  cases ss with
  | nil => cases h
  | cons first rest =>
      rw [best?, Option.some.injEq] at h
      -- The scan keeps the leader of what it has passed, from the first candidate on.
      induction rest using List.reverseRecOn generalizing best with
      | nil => exact h ▸ ⟨[], [], rfl, by simp, by simp⟩
      | append_singleton passed s ih =>
          rw [List.foldl_append, List.foldl_cons, List.foldl_nil] at h
          rw [← h]
          rw [← List.cons_append] at hnumbers ⊢
          exact (ih rfl fun u hu => hnumbers u (List.mem_append_left _ hu)).snoc hnumbers

/-- A candidate that no other exceeds. -/
def Unexceeded (ss : List Scored) (s : Scored) : Prop :=
  ∀ t ∈ ss, ¬ s.closeness < t.closeness

/-- Who leads a list stands at the first place at which no other is exceeded. -/
theorem Leads.isLeast {ss : List Scored} {best : Scored} (h : Leads best ss)
    (hnumbers : Comparable ss) :
    ∃ i, IsLeast {j : Nat | ∃ s, ss[j]? = some s ∧ Unexceeded ss s} i ∧ ss[i]? = some best := by
  obtain ⟨before, after, rfl, hbefore, hafter⟩ := h
  have hat : (before ++ best :: after)[before.length]? = some best := by
    rw [List.getElem?_append_right le_rfl, Nat.sub_self, List.getElem?_cons_zero]
  have hbest : best.closeness.isNaN = false := hnumbers best (by simp)
  have hself : ¬ best.closeness < best.closeness := by
    rw [lt_iff_height_lt hbest]
    exact lt_irrefl _
  refine ⟨before.length, ⟨⟨best, hat, fun t ht => ?_⟩, fun j hj => ?_⟩, hat⟩
  · rcases List.mem_append.mp ht with hmem | hmem
    · exact fun hlt => hself (score_lt_trans (hnumbers t ht) hbest hlt (hbefore t hmem))
    · rcases List.mem_cons.mp hmem with rfl | hmem
      · exact hself
      · exact hafter t hmem
  · obtain ⟨s, hs, hfree⟩ := hj
    by_contra hearly
    rw [List.getElem?_append_left (Nat.not_le.mp hearly)] at hs
    exact hfree best (by simp) (hbefore s (List.mem_of_getElem? hs))

/-! ### The ranking -/

/-- The closeness of a weighted row to the best of several. -/
def closenessIn : List (Criteria Float) → Criteria Float → Float
  | [], _ => 0
  | first :: rest, row => closeness (rest.foldl better first) (rest.foldl worse first) row

/-- Each row is scored by itself among all rows. -/
theorem scores_eq_map (rows : List (Criteria Float)) :
    scores rows = rows.map (closenessIn rows) := by
  cases rows <;> rfl

/-- The closeness of a candidate to the ideal, by its own four values and those of all candidates
in their order. -/
def closenessAmong (rows : List (Criteria Float)) (row : Criteria Float) : Float :=
  closenessIn (rows.map (weighted (lengths rows))) (weighted (lengths rows) row)

/-- Each device is scored by its own numbers among those of all devices. -/
theorem deviceScores_eq_map (r : Request) (ds : List Device) :
    deviceScores r ds = ds.map fun d => closenessAmong (ds.map (values r)) (values r d) := by
  rw [deviceScores, scores_eq_map, List.map_map, List.map_map]
  exact List.map_congr_left fun d _ => rfl

/-- **A candidate keeps its score**: it depends on the values of the candidate and those of all. -/
theorem rank_eq_map (filter : Bool) (ds : List Device) (r : Request) :
    rank filter ds r = (candidates filter ds r).map fun d =>
      ⟨d, closenessAmong ((candidates filter ds r).map (values r)) (values r d)⟩ := by
  simp only [rank, deviceScores_eq_map, List.zipWith_map_right, List.zipWith_self]

/-- What is ranked are the candidates, in their order. -/
theorem map_device_rank (filter : Bool) (ds : List Device) (r : Request) :
    (rank filter ds r).map Scored.device = candidates filter ds r := by
  rw [rank_eq_map, List.map_map]
  exact List.map_id' _

/-- A device that a request may be placed on: any, or under the filter one that has room. -/
def Eligible (filter : Bool) (r : Request) (d : Device) : Prop :=
  filter = true → HasRoom r d

instance (filter : Bool) (r : Request) : DecidablePred (Eligible filter r) :=
  fun _ => inferInstanceAs (Decidable (_ → _))

/-- The places of a list of devices from which a ranking takes the candidates: those of all the
eligible devices, in the standard order. -/
structure RankedFrom (filter : Bool) (ds : List Device) (r : Request) (places : List Nat) :
    Prop where
  /-- The places are those of the eligible devices, each once and in order. -/
  lists : Order.standard.Lists (Eligible filter r) ds places
  /-- What is ranked is what stands there. -/
  devices : ((rank filter ds r).map Scored.device).map some = places.map (ds[·]?)

/-- Every ranking comes from places of the list it ranks. -/
theorem exists_rankedFrom (filter : Bool) (ds : List Device) (r : Request) :
    ∃ places, RankedFrom filter ds r places := by
  have hcandidates : candidates filter ds r
      = Order.standard.sort (ds.filter fun d => decide (Eligible filter r d)) := by
    rw [candidates]
    congr 2
    funext d
    cases filter <;> simp [Eligible]
  obtain ⟨places, hlists, hmap⟩ := Order.standard.exists_lists (Eligible filter r) ds
  exact ⟨places, hlists, by rw [map_device_rank, hcandidates, hmap]⟩

end Share

/-- **A shared placement goes to the earliest of the best.** The ranking lists the eligible devices,
each once, in the standard order and equal ones as they came. Nothing is chosen exactly if no device
is eligible. Otherwise, if every score is a number, the device at the first place of the ranking
whose score no other exceeds is chosen. -/
theorem shared_choice_is_earliest_best (filter : Bool) (ds : List Device) (r : Request) :
    (∃ places, Share.RankedFrom filter ds r places) ∧
    (Share.choose? filter ds r = none ↔ ∀ d ∈ ds, ¬ Share.Eligible filter r d) ∧
    ((∃ d ∈ ds, Share.Eligible filter r d) → Share.Comparable (Share.rank filter ds r) →
      ∃ i s, IsLeast
          {j : Nat | ∃ t, (Share.rank filter ds r)[j]? = some t ∧
            Share.Unexceeded (Share.rank filter ds r) t} i ∧
        (Share.rank filter ds r)[i]? = some s ∧ Share.choose? filter ds r = some s.device) := by
  have hnone : Share.choose? filter ds r = none ↔ ∀ d ∈ ds, ¬ Share.Eligible filter r d := by
    rw [Share.choose?_eq_none_iff]
    cases filter <;> simp [Share.Eligible, List.eq_nil_iff_forall_not_mem]
  refine ⟨Share.exists_rankedFrom filter ds r, hnone, fun heligible hnumbers => ?_⟩
  cases hbest : Share.best? (Share.rank filter ds r) with
  | none =>
      have hchoose : Share.choose? filter ds r = none := by
        rw [Share.choose?, hbest, Option.map_none]
      obtain ⟨d, hd, hd'⟩ := heligible
      exact absurd hd' (hnone.mp hchoose d hd)
  | some best =>
      obtain ⟨i, hleast, hat⟩ := (Share.leads_best? hbest hnumbers).isLeast hnumbers
      refine ⟨i, best, hleast, hat, ?_⟩
      rw [Share.choose?, hbest, Option.map_some]

/-- Of three devices with room the fullest is ranked first and loses; the two idle ones have the
same score, and the one with the smaller number is chosen, though it came last. -/
theorem shared_choice_is_earliest_best_tie :
    let ds : List Device :=
      [{ id := 1, totalCores := 100, totalMemory := 16 },
       { id := 2, totalCores := 50, totalMemory := 16 },
       { id := 0, totalCores := 100, totalMemory := 16 }]
    let ranking := Share.rank true ds ⟨40, 4, 7⟩
    ranking.map (·.device.id) = [2, 0, 1] ∧
    ∃ i s, IsLeast {j : Nat | ∃ t, ranking[j]? = some t ∧ Share.Unexceeded ranking t} i ∧
      ranking[i]? = some s ∧ s.device.id = 0 := by
  intro ds ranking
  obtain ⟨-, -, hchosen⟩ := shared_choice_is_earliest_best true ds ⟨40, 4, 7⟩
  obtain ⟨i, s, hleast, hat, hchoose⟩ := hchosen (by decide +kernel) (by decide +kernel)
  have hid : (Share.choose? true ds ⟨40, 4, 7⟩).map Device.id = some 0 := by decide +kernel
  rw [hchoose] at hid
  exact ⟨by decide +kernel, i, s, hleast, hat, Option.some.inj hid⟩

end GpuLedger
