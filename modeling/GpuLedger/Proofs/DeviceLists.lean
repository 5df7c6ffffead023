import GpuLedger.Ledger
import GpuLedger.Proofs.Numerals
import Mathlib.Data.List.Forall2

/-!
# Device Lists as Text

A workload carries the numbers of its devices as text, and it is released by what that text
reads as. This module says which texts read as which lists: those that have between their commas a
numeral for each number, with blanks around it or none (`DeviceId.SpellsList`).

A list of numbers that is not empty reads back as it was written. The empty list has no text of its
own. It is written as a text that reads as no list, so what has been placed on no device is not
found again.

## Main results

* `Text.pieces_eq_iff` — the pieces of a text are the one way to cut it at its separators;
* `DeviceId.readList?_eq_some_iff` — a text reads as a list exactly if it spells it;
* `DeviceId.readList?_writeList` — a list that is written reads back;
* `device_lists_read_exactly` — what this means for the devices recorded for a container.
-/

namespace GpuLedger

namespace Text

/-- A text without the separator is one piece. -/
theorem pieces_of_notMem {separator : Char} {text : List Char} (h : separator ∉ text) :
    pieces separator text = [text] := by
  induction text with
  | nil => rfl
  | cons c rest ih =>
      obtain ⟨hc, hrest⟩ := not_or.mp (h ∘ List.mem_cons.mpr)
      rw [pieces, if_neg (Ne.symm hc), ih hrest]

/-- The first piece ends at the first separator. -/
theorem pieces_append_cons {separator : Char} {piece : List Char} (h : separator ∉ piece)
    (rest : List Char) :
    pieces separator (piece ++ separator :: rest) = piece :: pieces separator rest := by
  induction piece with
  | nil => rw [List.nil_append, pieces, if_pos rfl]
  | cons c more ih =>
      obtain ⟨hc, hmore⟩ := not_or.mp (h ∘ List.mem_cons.mpr)
      rw [List.cons_append, pieces, if_neg (Ne.symm hc), ih hmore]

/-- A text cut at a separator: there is a part at least, no part holds the separator, and with the
separator between them the parts are the text. -/
structure CutAt (separator : Char) (text : List Char) (parts : List (List Char)) : Prop where
  ne_nil : parts ≠ []
  notMem : ∀ part ∈ parts, separator ∉ part
  intercalate : [separator].intercalate parts = text

/-- Texts without the separator are found again as the pieces between separators. -/
theorem pieces_intercalate {separator : Char} {texts : List (List Char)} (hne : texts ≠ [])
    (h : ∀ t ∈ texts, separator ∉ t) :
    pieces separator ([separator].intercalate texts) = texts := by
  induction texts with
  | nil => exact absurd rfl hne
  | cons t rest ih =>
      have ht := h t List.mem_cons_self
      cases rest with
      | nil => rw [List.intercalate_singleton, pieces_of_notMem ht]
      | cons next more =>
          have hrest := ih (List.cons_ne_nil _ _) fun u hu => h u (List.mem_cons_of_mem _ hu)
          rw [List.intercalate_cons_cons, List.append_assoc, List.singleton_append,
            pieces_append_cons ht, hrest]

/-- No piece holds the separator. -/
theorem notMem_of_mem_pieces {separator : Char} {text piece : List Char}
    (h : piece ∈ pieces separator text) : separator ∉ piece := by
  induction text generalizing piece with
  | nil => simp_all [pieces]
  | cons c rest ih =>
      obtain ⟨first, more, hp⟩ := List.exists_cons_of_ne_nil (pieces_ne_nil separator rest)
      rw [hp] at ih
      unfold pieces at h
      split at h
      · rcases List.mem_cons.mp h with rfl | h
        · exact List.not_mem_nil
        · exact ih (hp ▸ h)
      · next hc =>
        rw [hp] at h
        rcases List.mem_cons.mp h with rfl | h
        · exact List.not_mem_cons_of_ne_of_not_mem (Ne.symm hc) (ih List.mem_cons_self)
        · exact ih (List.mem_cons_of_mem _ h)

/-- **A text can be cut in one way only**, and its pieces are that way. -/
theorem pieces_eq_iff {separator : Char} {text : List Char} {parts : List (List Char)} :
    pieces separator text = parts ↔ CutAt separator text parts := by
  constructor
  · rintro rfl
    exact ⟨pieces_ne_nil _ _, fun _ => notMem_of_mem_pieces, intercalate_pieces _ _⟩
  · rintro ⟨hne, hparts, rfl⟩
    exact pieces_intercalate hne hparts

end Text

/-! ### Lists of readings -/

section Readings

variable {α β : Type} {f : α → Option β}

/-- A list is read by reading all of its elements. -/
theorem mapM_eq_some_iff {xs : List α} {ys : List β} :
    xs.mapM f = some ys ↔ List.Forall₂ (fun x y => f x = some y) xs ys := by
  induction xs generalizing ys with
  | nil => simp [List.forall₂_nil_left_iff, eq_comm]
  | cons x rest ih =>
      rw [List.mapM_cons, List.forall₂_cons_left_iff]
      constructor
      · intro h
        obtain ⟨y, hy, h⟩ := Option.bind_eq_some_iff.mp h
        obtain ⟨more, hmore, h⟩ := Option.bind_eq_some_iff.mp h
        exact ⟨y, more, hy, ih.mp hmore, (Option.some.inj h).symm⟩
      · rintro ⟨y, more, hy, hmore, rfl⟩
        rw [hy, ih.mpr hmore]
        rfl

/-- A list is not read exactly if one of its elements is not. -/
theorem mapM_eq_none_iff {xs : List α} : xs.mapM f = none ↔ ∃ x ∈ xs, f x = none := by
  induction xs with
  | nil => simp
  | cons x rest ih =>
      rw [List.mapM_cons, List.exists_mem_cons_iff, ← ih]
      cases f x with
      | none => simp
      | some y => cases rest.mapM f <;> simp

end Readings

namespace DeviceId

/-- A text spells a number of a device if it is a numeral of it with blanks around it. A numeral of
2 ^ 32 or more spells none. -/
def Spells (text : List Char) (id : DeviceId) : Prop :=
  ∃ numeral, Text.Trims text numeral ∧ Decimal.Denotes numeral id.toNat

/-- A text spells a list of devices if between its commas the numbers of the devices are spelled
one by one. -/
def SpellsList (text : List Char) (ids : List DeviceId) : Prop :=
  ∃ parts, Text.CutAt ',' text parts ∧ List.Forall₂ Spells parts ids

/-- A text reads as the number that it spells, and as none if it spells none. -/
theorem read?_eq_some_iff {text : List Char} {id : DeviceId} :
    read? text = some id ↔ Spells text id := by
  have hspells : Spells text id ↔ Decimal.Denotes (Text.trim text) id.toNat := by
    simp only [Spells, ← Text.trim_eq_iff, exists_eq_left']
  have hid : id.toNat ≤ UInt32.size - 1 := Nat.le_sub_one_of_lt id.toNat_lt
  rw [hspells]
  constructor
  · intro h
    unfold read? at h
    split at h
    · next n hn =>
      obtain ⟨hdenotes, hbound⟩ := Decimal.read_eq_ok_iff.mp hn
      have hlt : n < UInt32.size := Nat.lt_of_le_pred (by decide) hbound
      rw [← Option.some.inj h, UInt32.toNat_ofNat_of_lt' hlt]
      exact hdenotes
    · cases h
  · intro h
    rw [read?, Decimal.read_eq_ok_iff.mpr ⟨h, hid⟩]
    exact congrArg some UInt32.ofNat_toNat

/-- **A text reads as the list that it spells**, and as none if it spells none. -/
theorem readList?_eq_some_iff {text : List Char} {ids : List DeviceId} :
    readList? text = some ids ↔ SpellsList text ids := by
  simp only [readList?, mapM_eq_some_iff, read?_eq_some_iff, SpellsList, ← Text.pieces_eq_iff,
    exists_eq_left']

example : readList? " 1, +02 ,003".toList = some [1, 2, 3] := by decide

/-- A text reads as no list exactly if some part of it spells no number. -/
theorem readList?_eq_none_iff {text : List Char} :
    readList? text = none ↔
      ∃ parts, Text.CutAt ',' text parts ∧ ∃ part ∈ parts, ∀ id, ¬ Spells part id := by
  have hnone : ∀ part, read? part = none ↔ ∀ id, ¬ Spells part id := fun part => by
    simp only [Option.eq_none_iff_forall_ne_some, ne_eq, read?_eq_some_iff]
  simp only [readList?, mapM_eq_none_iff, hnone, ← Text.pieces_eq_iff, exists_eq_left']

/-- The numeral of a device spells its number. -/
theorem spells_write (id : DeviceId) : Spells (Decimal.write id.toNat) id :=
  ⟨_, Text.trim_eq_iff.mp (Decimal.trim_write _), Decimal.denotes_write _⟩

/-- **A list of devices reads back** as the list that was written. -/
theorem readList?_writeList {ids : List DeviceId} (h : ids ≠ []) :
    readList? (writeList ids) = some ids := by
  refine readList?_eq_some_iff.mpr ⟨ids.map fun id => Decimal.write id.toNat, ?_, ?_⟩
  · refine ⟨by simpa using h, ?_, rfl⟩
    intro text htext hcomma
    obtain ⟨id, -, rfl⟩ := List.mem_map.mp htext
    exact absurd (Decimal.isDigit_of_mem_write hcomma) (by decide)
  · exact List.forall₂_map_left_iff.mpr (List.forall₂_same.mpr fun id _ => spells_write id)

end DeviceId

/-! ### The list recorded for a container -/

/-- **Device lists are read exactly.** The devices that are recorded for a container are those that
the text of its record spells, part by part; without a record, and where some part of the text
spells no number of a device, there are none. What is recorded for a placement reads back as its
devices, unless there are none. -/
theorem device_lists_read_exactly (w : Workload) (i : Nat) :
    (∀ ids, w.assignedDevices? i = some ids ↔
      ∃ text, w.annotations.get? (Annotations.deviceList i) = some text ∧
        DeviceId.SpellsList text.toList ids) ∧
    (w.assignedDevices? i = none ↔
      ∀ text, w.annotations.get? (Annotations.deviceList i) = some text →
        ∃ parts, Text.CutAt ',' text.toList parts ∧
          ∃ part ∈ parts, ∀ id, ¬ DeviceId.Spells part id) ∧
    ∀ p : Placement,
      (w.annotateWith (Annotations.deviceList i) p.deviceList).assignedDevices? i =
        if p.devices = [] then none else some p.devices := by
  refine ⟨fun ids => ?_, ?_, fun p => ?_⟩
  · rw [Workload.assignedDevices?, Option.bind_eq_some_iff]
    simp only [DeviceId.readList?_eq_some_iff]
  · simp only [Workload.assignedDevices?, Option.bind_eq_none_iff, DeviceId.readList?_eq_none_iff]
  · have hget : (w.annotateWith (Annotations.deviceList i) p.deviceList).annotations.get?
        (Annotations.deviceList i) = some p.deviceList :=
      (SortedMap.get?_insert ..).trans (if_pos rfl)
    have hread : (w.annotateWith (Annotations.deviceList i) p.deviceList).assignedDevices? i =
        DeviceId.readList? (DeviceId.writeList p.devices) := by
      rw [Workload.assignedDevices?, hget, Option.bind_some, Placement.deviceList,
        String.toList_ofList]
    rw [hread]
    split
    · next hnone =>
      rw [hnone]
      rfl
    · next hsome => exact DeviceId.readList?_writeList hsome

end GpuLedger
