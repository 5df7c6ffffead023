import GpuLedger.Decimal
import GpuLedger.Text
import Mathlib.Data.List.DropRight

/-!
# Numerals Between Blanks

Annotations hold numbers as text, and a number is read in two steps: the blanks at both ends are
cut off, and what is left is read as a numeral. This module says for every text what the two
steps give.

Reading goes digit by digit and stops at the first fault, so an excess may be reported before the
text has been seen to its end. What comes out of this can be said without the steps: the digits that
the numeral begins with decide whether it is too large (`Decimal.leadingValue`), and only if it is
not does it matter whether anything stands behind them.

## Main results

* `Text.trim_eq_iff` — what is left after trimming is the one part of the text that has only blanks
  around it and neither begins nor ends with a blank;
* `Decimal.read_eq` — a numeral is read by its leading digits;
* `Decimal.read_eq_ok_iff` — a text reads as a number exactly if it denotes the number, that is, if
  it consists of digits with this value after at most one plus sign;
* `Decimal.read_eq_empty_iff`, `read_eq_tooLarge_iff`, `read_eq_invalidDigit_iff` — when a text has
  which fault.
-/

namespace GpuLedger

namespace Text

/-! ### Trimming -/

/-- A text is its core with blanks around it, and the core begins and ends with no blank. -/
structure Trims (text core : List Char) : Prop where
  exists_blanks : ∃ front back, text = front ++ core ++ back ∧
    (∀ c ∈ front, isBlank c = true) ∧ ∀ c ∈ back, isBlank c = true
  head : ∀ c ∈ core.head?, isBlank c = false
  last : ∀ c ∈ core.getLast?, isBlank c = false

/-- Nothing is cut off where the text begins with no blank. -/
theorem dropWhile_isBlank_eq_self {text : List Char} (h : ∀ c ∈ text.head?, isBlank c = false) :
    text.dropWhile isBlank = text := by
  cases text with
  | nil => rfl
  | cons c rest => rw [List.dropWhile_cons_of_neg (by simp [h c rfl])]

/-- Blanks in front of a text that begins with no blank are cut off, and nothing else is. -/
theorem dropWhile_isBlank_append {front text : List Char} (hfront : ∀ c ∈ front, isBlank c = true)
    (htext : ∀ c ∈ text.head?, isBlank c = false) :
    (front ++ text).dropWhile isBlank = text := by
  rw [List.dropWhile_append_of_pos hfront, dropWhile_isBlank_eq_self htext]

/-- Trimming cuts blanks off at the front and then at the back. -/
theorem trim_eq_rdropWhile (text : List Char) :
    trim text = (text.dropWhile isBlank).rdropWhile isBlank := rfl

/-- A text has its core between the blanks that are cut off. -/
theorem trims_trim (text : List Char) : Trims text (trim text) where
  exists_blanks := by
    refine ⟨text.takeWhile isBlank, (text.dropWhile isBlank).rtakeWhile isBlank, ?_,
      fun _ => List.mem_takeWhile_imp, fun _ => List.mem_rtakeWhile_imp⟩
    rw [trim_eq_rdropWhile, List.append_assoc, List.rdropWhile_append_rtakeWhile,
      List.takeWhile_append_dropWhile]
  head := by
    intro c hc
    obtain ⟨back, hback⟩ := List.rdropWhile_prefix isBlank (text.dropWhile isBlank)
    rw [← trim_eq_rdropWhile] at hback
    have hnot := List.head?_dropWhile_not isBlank text
    rw [← hback, List.head?_append, Option.mem_def.mp hc] at hnot
    simpa using hnot
  last := by
    intro c hc
    obtain ⟨hne, rfl⟩ := List.mem_getLast?_eq_getLast hc
    rw [trim_eq_rdropWhile] at hne
    simpa [trim_eq_rdropWhile] using List.rdropWhile_last_not isBlank _ hne

/-- A text has only one core. -/
theorem Trims.trim_eq {text core : List Char} (h : Trims text core) : trim text = core := by
  obtain ⟨front, back, rfl, hfront, hback⟩ := h.exists_blanks
  -- The core stops both cuts, but an empty core leaves that to nothing at all.
  cases core with
  | nil =>
    have hblank : ∀ c ∈ front ++ [] ++ back, isBlank c = true := by
      intro c hc
      rw [List.append_nil, List.mem_append] at hc
      exact hc.elim (hfront c) (hback c)
    rw [trim_eq_rdropWhile, List.dropWhile_eq_nil_iff.mpr hblank, List.rdropWhile_nil]
  | cons c rest =>
    have hcut : (front ++ (c :: rest ++ back)).dropWhile isBlank = c :: rest ++ back :=
      dropWhile_isBlank_append hfront h.head
    have hreverse : (c :: rest ++ back).reverse.dropWhile isBlank = (c :: rest).reverse := by
      rw [List.reverse_append]
      refine dropWhile_isBlank_append (by simpa using hback) ?_
      rw [List.head?_reverse]
      exact h.last
    rw [trim, List.append_assoc, hcut, hreverse, List.reverse_reverse]

/-- **Trimming is exact**: it finds the one core of a text. -/
theorem trim_eq_iff {text core : List Char} : trim text = core ↔ Trims text core :=
  ⟨fun h => h ▸ trims_trim text, Trims.trim_eq⟩

/-- A text without blanks is not trimmed. -/
theorem trim_eq_self {text : List Char} (h : ∀ c ∈ text, isBlank c = false) :
    trim text = text :=
  trim_eq_iff.mpr
    { exists_blanks := ⟨[], [], by simp⟩
      head := fun c hc => h c (List.mem_of_mem_head? hc)
      last := fun c hc => h c (List.mem_of_getLast? hc) }

/-- No digit is blank. -/
theorem isBlank_of_isDigit {c : Char} (h : c.isDigit = true) : isBlank c = false := by
  simp only [Char.isDigit, Bool.and_eq_true, decide_eq_true_eq] at h
  have hlow : 48 ≤ c.toNat := h.1
  have hhigh : c.toNat ≤ 57 := h.2
  simp only [isBlank, inRanges, blankRanges, List.any_cons, List.any_nil, Bool.or_false,
    Bool.or_eq_false_iff, Bool.and_eq_false_iff, decide_eq_false_iff_not]
  omega

end Text

namespace Decimal

/-! ### Reading -/

/-- What has to be digits in a numeral: all of it, apart from a plus sign that something
follows. -/
def unsigned : List Char → List Char
  | '+' :: c :: rest => c :: rest
  | text => text

/-- The digits that a numeral begins with, behind its sign. -/
def leading (text : List Char) : List Char :=
  (unsigned text).takeWhile Char.isDigit

/-- The value of the digits that a numeral begins with. -/
def leadingValue (text : List Char) : Nat :=
  Nat.ofDigitChars 10 (leading text) 0

/-- A character that is no digit has no value. -/
theorem digit?_of_not_isDigit {c : Char} (h : ¬ c.isDigit = true) : digit? c = none := by
  simp [digit?, h]

/-- The digits that come first decide how a text is read, and only their end shows whether
anything follows them. -/
theorem readDigits_eq {bound value : Nat} (h : value ≤ bound) (text : List Char) :
    readDigits bound value text =
      if bound < Nat.ofDigitChars 10 (text.takeWhile Char.isDigit) value then .error .tooLarge
      else if text.takeWhile Char.isDigit = text then
        .ok (Nat.ofDigitChars 10 (text.takeWhile Char.isDigit) value)
      else .error .invalidDigit := by
  induction text generalizing value with
  | nil => simp [readDigits, h]
  | cons c rest ih =>
    by_cases hc : c.isDigit = true
    · rw [List.takeWhile_cons_of_pos hc, Nat.ofDigitChars_cons]
      simp only [readDigits, digit?_of_isDigit hc, List.cons.injEq, true_and]
      split
      · next hfit => exact ih hfit
      · next hfit =>
        have hle :=
          le_ofDigitChars (rest.takeWhile Char.isDigit) (10 * value + (c.toNat - '0'.toNat))
        rw [if_pos (by omega)]
    · rw [List.takeWhile_cons_of_neg hc]
      simp [readDigits, digit?_of_not_isDigit hc, h]

/-- A text that begins with no plus sign has none. -/
theorem unsigned_cons_of_ne {c : Char} (h : c ≠ '+') (rest : List Char) :
    unsigned (c :: rest) = c :: rest := by
  unfold unsigned
  split <;> simp_all

/-- A text is read behind its sign. -/
theorem read_eq_readDigits (bound : Nat) (text : List Char) :
    read bound text = if text = [] then .error .empty else readDigits bound 0 (unsigned text) := by
  cases text with
  | nil => rfl
  | cons c rest =>
    rw [if_neg (List.cons_ne_nil c rest)]
    by_cases hc : c = '+'
    · subst hc
      cases rest <;> rfl
    · rw [unsigned_cons_of_ne hc]
      unfold read
      split <;> simp_all

/-- **A numeral is read by its leading digits**: they decide whether the number is too large,
and only if it is not does it matter whether they are the whole numeral. -/
theorem read_eq (bound : Nat) (text : List Char) :
    read bound text =
      if text = [] then .error .empty
      else if bound < leadingValue text then .error .tooLarge
      else if leading text = unsigned text then .ok (leadingValue text)
      else .error .invalidDigit := by
  rw [read_eq_readDigits, readDigits_eq (Nat.zero_le bound)]
  rfl

/-! ### The numerals of a number -/

/-- A text denotes a number if it consists of digits with this value, after a plus sign or
without one. -/
def Denotes (text : List Char) (n : Nat) : Prop :=
  ∃ digits, (text = digits ∨ text = '+' :: digits) ∧ digits ≠ [] ∧
    (∀ c ∈ digits, c.isDigit = true) ∧ Nat.ofDigitChars 10 digits 0 = n

/-- A text has a plus sign in front of its unsigned part, or none. -/
theorem eq_unsigned_or (text : List Char) : text = unsigned text ∨ text = '+' :: unsigned text := by
  unfold unsigned
  split <;> simp

/-- A sign is not dropped if it stands alone. -/
theorem unsigned_ne_nil_iff {text : List Char} : unsigned text ≠ [] ↔ text ≠ [] := by
  unfold unsigned
  split
  · simp
  · rfl

/-- The digits of a numeral are what stands behind its sign. -/
theorem unsigned_eq {text digits : List Char} (htext : text = digits ∨ text = '+' :: digits)
    (hne : digits ≠ []) (hdigits : ∀ c ∈ digits, c.isDigit = true) : unsigned text = digits := by
  obtain ⟨c, rest, rfl⟩ := List.exists_cons_of_ne_nil hne
  rcases htext with rfl | rfl
  · refine unsigned_cons_of_ne ?_ rest
    rintro rfl
    exact absurd (hdigits '+' List.mem_cons_self) (by decide)
  · rfl

/-- A text denotes a number exactly if its leading digits are all that it has and have this
value. -/
theorem denotes_iff {text : List Char} {n : Nat} :
    Denotes text n ↔ text ≠ [] ∧ leading text = unsigned text ∧ leadingValue text = n := by
  constructor
  · rintro ⟨digits, htext, hne, hdigits, rfl⟩
    have hunsigned := unsigned_eq htext hne hdigits
    have hleading : leading text = digits := by
      rw [leading, hunsigned, List.takeWhile_eq_self_iff.mpr hdigits]
    refine ⟨?_, hleading.trans hunsigned.symm, by rw [leadingValue, hleading]⟩
    rintro rfl
    exact hne hunsigned.symm
  · rintro ⟨hne, hleading, rfl⟩
    exact ⟨unsigned text, eq_unsigned_or text, unsigned_ne_nil_iff.mpr hne,
      List.takeWhile_eq_self_iff.mp hleading, by rw [leadingValue, hleading]⟩

/-- **A text reads as a number exactly if it denotes it** and the number is within the bound. -/
theorem read_eq_ok_iff {bound : Nat} {text : List Char} {n : Nat} :
    read bound text = .ok n ↔ Denotes text n ∧ n ≤ bound := by
  rw [read_eq, denotes_iff]
  split
  · next hempty => simp [hempty]
  split
  · next hlarge =>
    refine iff_of_false nofun ?_
    rintro ⟨⟨-, -, rfl⟩, hle⟩
    omega
  split
  · next hempty hlarge hwhole =>
    simp only [Except.ok.injEq, ne_eq, hempty, not_false_eq_true, hwhole, true_and]
    exact ⟨fun h => ⟨h, by omega⟩, And.left⟩
  · next hrest => simp [hrest]

/-! ### Faults -/

/-- Only the empty text is found empty. -/
theorem read_eq_empty_iff {bound : Nat} {text : List Char} :
    read bound text = .error .empty ↔ text = [] := by
  rw [read_eq]
  split_ifs with hempty <;> simp [hempty]

/-- A text is found too large exactly if its leading digits are, whatever follows them. -/
theorem read_eq_tooLarge_iff {bound : Nat} {text : List Char} :
    read bound text = .error .tooLarge ↔ bound < leadingValue text := by
  rw [read_eq]
  split_ifs with hempty hlarge
  · have hzero : leadingValue text = 0 := by rw [hempty]; rfl
    simp [hzero]
  all_goals simp [hlarge]

example : read 255 "300x".toList = .error .tooLarge := by decide

/-- All other texts that are no numerals are at fault for what follows their leading digits. -/
theorem read_eq_invalidDigit_iff {bound : Nat} {text : List Char} :
    read bound text = .error .invalidDigit ↔
      text ≠ [] ∧ leading text ≠ unsigned text ∧ leadingValue text ≤ bound := by
  rw [read_eq, ← Nat.not_lt]
  split_ifs with hempty hlarge hwhole
  · simp [hempty]
  · simp [hlarge]
  · simp [hwhole]
  · simp [hempty, hlarge, hwhole]

/-! ### Quantities -/

/-- A text reads as a quantity exactly if it reads as its number. -/
theorem readQuantity_eq_ok_iff {text : List Char} {q : Quantity} :
    readQuantity text = .ok q ↔ Denotes text q.toNat := by
  have hbound : q.toNat ≤ UInt64.size - 1 := Nat.le_sub_one_of_lt q.toNat_lt
  constructor
  · intro h
    unfold readQuantity at h
    cases hread : read (UInt64.size - 1) text with
    | error fault => rw [hread] at h; cases h
    | ok n =>
      obtain ⟨hdenotes, hle⟩ := read_eq_ok_iff.mp hread
      have hlt : n < UInt64.size := Nat.lt_of_le_pred (by decide) hle
      rw [hread] at h
      rw [← Except.ok.inj h, UInt64.toNat_ofNat_of_lt' hlt]
      exact hdenotes
  · intro h
    rw [readQuantity, read_eq_ok_iff.mpr ⟨h, hbound⟩]
    exact congrArg Except.ok UInt64.ofNat_toNat

/-- A text is no quantity for the same fault for which it is no numeral. -/
theorem readQuantity_eq_error_iff {text : List Char} {fault : Fault} :
    readQuantity text = .error fault ↔ read (UInt64.size - 1) text = .error fault := by
  unfold readQuantity
  cases read (UInt64.size - 1) text <;> simp [Except.map]

/-! ### What is written -/

/-- A numeral consists of digits. -/
theorem isDigit_of_mem_write {n : Nat} {c : Char} (h : c ∈ write n) : c.isDigit = true :=
  Nat.isDigit_of_mem_toDigits (by decide) (by decide) h

/-- Different numbers have different numerals. -/
theorem write_injective {m n : Nat} (h : write m = write n) : m = n := by
  have hm : Nat.ofDigitChars 10 (write m) 0 = m := Nat.ofDigitChars_ten_toDigits
  have hn : Nat.ofDigitChars 10 (write n) 0 = n := Nat.ofDigitChars_ten_toDigits
  rw [← hm, h, hn]

/-- A numeral denotes its number. -/
theorem denotes_write (n : Nat) : Denotes (write n) n :=
  (read_eq_ok_iff.mp (read_write (Nat.le_refl n))).1

/-- A numeral has no blanks to trim. -/
theorem trim_write (n : Nat) : Text.trim (write n) = write n :=
  Text.trim_eq_self fun _ hc => Text.isBlank_of_isDigit (isDigit_of_mem_write hc)

end Decimal

end GpuLedger
