import GpuLedger.Proofs.Records

/-!
# Estimated Run Times as Text

The estimated run time of a container comes as the text of an annotation. A text is taken for what
the numeral between its blanks says, and the faults of the numeral are carried over to an error of
the workload, which holds the text as it stands in the annotation, blanks included
(`Workload.ReadsEstimate`).

The names of the annotations end in the index of the container, and no two indices share a name. So
estimates that are set one after the other do not get in each other's way.

## Main results

* `Workload.readsEstimate` — how the text of an estimate is taken;
* `Workload.estimatedTime_foldl` — the last estimate that is set for a container is its estimate;
* `estimates_read_exactly` — both, and the absent estimate.
-/

namespace GpuLedger

namespace Workload

/-- The error of an estimate that is no quantity. -/
def badEstimate (w : Workload) (index : Nat) (text : String) (fault : Decimal.Fault) : Error :=
  .lookup (.estimate text w.nameSpace w.name index fault)

/-- How the text of an estimate is taken if this numeral stands between its blanks. Whether it is
too large is decided by the leading digits alone, so of the two faults of a numeral that is also
spoilt behind them the excess is the one reported. -/
structure ReadsEstimate (w : Workload) (index : Nat) (text : String) (numeral : List Char) :
    Prop where
  ok_iff : ∀ time : Quantity, w.estimatedTime index = .ok time ↔
    Decimal.unsigned numeral ≠ [] ∧ Decimal.leading numeral = Decimal.unsigned numeral ∧
      Decimal.leadingValue numeral = time.toNat
  empty_iff : w.estimatedTime index = .error (w.badEstimate index text .empty) ↔ numeral = []
  tooLarge_iff : w.estimatedTime index = .error (w.badEstimate index text .tooLarge) ↔
    UInt64.size ≤ Decimal.leadingValue numeral
  invalidDigit_iff : w.estimatedTime index = .error (w.badEstimate index text .invalidDigit) ↔
    numeral ≠ [] ∧ Decimal.leading numeral ≠ Decimal.unsigned numeral ∧
      Decimal.leadingValue numeral < UInt64.size
  error_eq : ∀ e, w.estimatedTime index = .error e → ∃ fault, e = w.badEstimate index text fault

/-- Without a text the estimate is zero. -/
theorem estimatedTime_of_none {w : Workload} {i : Nat}
    (h : w.annotations.get? (Annotations.estimatedTime i) = none) : w.estimatedTime i = .ok 0 := by
  rw [estimatedTime, h]

section Recorded

variable {w : Workload} {i : Nat} {text : String}

/-- A text is read without the blanks around it. -/
theorem estimatedTime_of_some (h : w.annotations.get? (Annotations.estimatedTime i) = some text) :
    w.estimatedTime i =
      (Decimal.readQuantity (Text.trim text.toList)).mapError (w.badEstimate i text) := by
  rw [estimatedTime, h]
  cases hread : Decimal.readQuantity (Text.trim text.toList) <;> simp only [hread] <;> rfl

/-- The estimate is a quantity exactly if the numeral in the text denotes it. -/
theorem estimatedTime_eq_ok_iff
    (h : w.annotations.get? (Annotations.estimatedTime i) = some text) {time : Quantity} :
    w.estimatedTime i = .ok time ↔ Decimal.Denotes (Text.trim text.toList) time.toNat := by
  rw [estimatedTime_of_some h, ← Decimal.readQuantity_eq_ok_iff]
  cases Decimal.readQuantity (Text.trim text.toList) <;> simp [Except.mapError]

/-- The fault of the estimate is that of the numeral in the text. -/
theorem estimatedTime_eq_error_iff
    (h : w.annotations.get? (Annotations.estimatedTime i) = some text) {fault : Decimal.Fault} :
    w.estimatedTime i = .error (w.badEstimate i text fault) ↔
      Decimal.read (UInt64.size - 1) (Text.trim text.toList) = .error fault := by
  rw [estimatedTime_of_some h, ← Decimal.readQuantity_eq_error_iff]
  cases Decimal.readQuantity (Text.trim text.toList) <;> simp [Except.mapError, badEstimate]

/-- What stands between the blanks of a text decides how it is read. -/
theorem readsEstimate (h : w.annotations.get? (Annotations.estimatedTime i) = some text) :
    w.ReadsEstimate i text (Text.trim text.toList) where
  ok_iff time := by
    rw [estimatedTime_eq_ok_iff h, Decimal.denotes_iff, Decimal.unsigned_ne_nil_iff]
  empty_iff := by rw [estimatedTime_eq_error_iff h, Decimal.read_eq_empty_iff]
  tooLarge_iff := by
    rw [estimatedTime_eq_error_iff h, Decimal.read_eq_tooLarge_iff, ← Nat.not_le,
      Nat.le_sub_one_iff_lt (by decide), Nat.not_lt]
  invalidDigit_iff := by
    rw [estimatedTime_eq_error_iff h, Decimal.read_eq_invalidDigit_iff,
      Nat.le_sub_one_iff_lt (by decide)]
  error_eq e he := by
    rw [estimatedTime_of_some h] at he
    cases hread : Decimal.readQuantity (Text.trim text.toList) with
    | ok time => rw [hread] at he; cases he
    | error fault => rw [hread] at he; exact ⟨fault, (Except.error.inj he).symm⟩

end Recorded

/-! ### Setting estimates -/

/-- An estimate that is set is the estimate of its container, and of no other. -/
theorem estimatedTime_withEstimatedTime (w : Workload) (j : Nat) (time : Quantity) (i : Nat) :
    (w.withEstimatedTime j time).estimatedTime i
      = if j = i then .ok time else w.estimatedTime i := by
  have hget : (w.withEstimatedTime j time).annotations.get? (Annotations.estimatedTime i) =
      if Annotations.estimatedTime j = Annotations.estimatedTime i then
        some (String.ofList (Decimal.write time.toNat))
      else w.annotations.get? (Annotations.estimatedTime i) := SortedMap.get?_insert ..
  split
  · next hj =>
    rw [hj, if_pos rfl] at hget
    rw [hj, estimatedTime_eq_ok_iff hget, String.toList_ofList, Decimal.trim_write]
    exact Decimal.denotes_write _
  · next hj =>
    rw [if_neg (mt Annotations.estimatedTime_injective hj)] at hget
    rw [estimatedTime, hget]
    rfl

/-- The last estimate that is set for a container is its estimate. -/
theorem estimatedTime_foldl (w : Workload) (calls : List (Nat × Quantity)) (i : Nat) :
    (calls.foldl (fun w c => w.withEstimatedTime c.1 c.2) w).estimatedTime i =
      match (calls.filter (·.1 = i)).getLast? with
      | some c => .ok c.2
      | none => w.estimatedTime i := by
  -- From the back: the last call either is for the container or changes nothing for it.
  induction calls using List.reverseRecOn with
  | nil => rfl
  | append_singleton calls c ih =>
    rw [List.foldl_concat, estimatedTime_withEstimatedTime, ih, List.filter_append]
    split
    · next hc => simp [hc]
    · next hc => simp [hc]

end Workload

/-- **Estimates are read exactly.** Without a text the estimate of a container is zero. A text is
taken for what the numeral between its blanks says, or refused for the first fault of the numeral.
Of all estimates that are set, in any order and for any containers, each container keeps the last
of its own. -/
theorem estimates_read_exactly (w : Workload) (i : Nat) :
    (match w.annotations.get? (Annotations.estimatedTime i) with
      | none => w.estimatedTime i = .ok 0
      | some text => ∃ numeral, Text.Trims text.toList numeral ∧ w.ReadsEstimate i text numeral) ∧
    ∀ calls : List (Nat × Quantity),
      (calls.foldl (fun w c => w.withEstimatedTime c.1 c.2) w).estimatedTime i =
        match (calls.filter (·.1 = i)).getLast? with
        | some c => .ok c.2
        | none => w.estimatedTime i := by
  refine ⟨?_, fun calls => Workload.estimatedTime_foldl w calls i⟩
  split
  · next h => exact Workload.estimatedTime_of_none h
  · next text h => exact ⟨_, Text.trims_trim _, Workload.readsEstimate h⟩

end GpuLedger
