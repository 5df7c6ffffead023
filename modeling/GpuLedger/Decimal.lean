import GpuLedger.Quantity

/-!
# Decimal numerals

Counts in annotations are decimal numerals: one or more ASCII digits after at most one plus
sign. `Decimal.read` goes through the digits from the left and stops at the first fault, which
is either a character that is no digit or a value above the bound. The character is looked at
first, so of two faults at one place the wrong character is the one reported.

A floating-point number is written with a fixed number of decimal places (`Decimal.writePlaces`).
The number itself is exact, a natural number times a power of two, and so is its rounding: to the
nearest number of that many places, and to the even neighbour from halfway between two.

## Main results

`read_write` says that a numeral within the bound reads back as its number.
-/

namespace GpuLedger.Decimal

/-- Why a text is no numeral within a bound. -/
inductive Fault where
  /-- There is no character at all. -/
  | empty
  /-- A character is no digit, or a sign stands alone. -/
  | invalidDigit
  /-- The digits read so far exceed the bound. -/
  | tooLarge
deriving DecidableEq

/-- The wording of a fault. -/
def Fault.message : Fault → String
  | .empty => "cannot parse integer from empty string"
  | .invalidDigit => "invalid digit found in string"
  | .tooLarge => "number too large to fit in target type"

/-- The value of an ASCII digit. -/
def digit? (c : Char) : Option Nat :=
  if c.isDigit then some (c.toNat - '0'.toNat) else none

/-- Reads digits after a numeral whose value so far is known. -/
def readDigits (bound : Nat) : Nat → List Char → Except Fault Nat
  | value, [] => .ok value
  | value, c :: rest =>
    match digit? c with
    | none => .error .invalidDigit
    | some d =>
      if 10 * value + d ≤ bound then readDigits bound (10 * value + d) rest else .error .tooLarge

/-- Reads a numeral with a value up to a bound. -/
def read (bound : Nat) : List Char → Except Fault Nat
  | [] => .error .empty
  | ['+'] => .error .invalidDigit
  | '+' :: digits => readDigits bound 0 digits
  | digits => readDigits bound 0 digits

/-- Reads a quantity. -/
def readQuantity (text : List Char) : Except Fault Quantity :=
  (read (UInt64.size - 1) text).map UInt64.ofNat

/-- The shortest numeral of a number. -/
def write (n : Nat) : List Char :=
  Nat.toDigits 10 n

/-! ### Numerals read back -/

/-- A digit has the value by which it stands behind zero. -/
theorem digit?_of_isDigit {c : Char} (h : c.isDigit = true) :
    digit? c = some (c.toNat - '0'.toNat) := by
  simp [digit?, h]

/-- More digits do not make a value smaller. -/
theorem le_ofDigitChars (digits : List Char) (value : Nat) :
    value ≤ Nat.ofDigitChars 10 digits value := by
  induction digits generalizing value with
  | nil => simp
  | cons c rest ih =>
    rw [Nat.ofDigitChars_cons]
    exact Nat.le_trans (by omega) (ih _)

/-- Digits whose value stays within the bound are read to the end. -/
theorem readDigits_eq_ok {bound : Nat} {digits : List Char} {value : Nat}
    (hdigits : ∀ c ∈ digits, c.isDigit = true)
    (hbound : Nat.ofDigitChars 10 digits value ≤ bound) :
    readDigits bound value digits = .ok (Nat.ofDigitChars 10 digits value) := by
  induction digits generalizing value with
  | nil => simp [readDigits]
  | cons c rest ih =>
    rw [Nat.ofDigitChars_cons] at hbound ⊢
    have hfit := Nat.le_trans (le_ofDigitChars rest _) hbound
    simp only [readDigits, digit?_of_isDigit (hdigits c List.mem_cons_self), hfit, if_true]
    exact ih (fun d hd => hdigits d (List.mem_cons_of_mem _ hd)) hbound

/-- A text of digits is read as the digits alone: it has no sign. -/
theorem read_of_isDigit {bound : Nat} {c : Char} {rest : List Char} (h : c.isDigit = true) :
    read bound (c :: rest) = readDigits bound 0 (c :: rest) := by
  have hc : c ≠ '+' := by rintro rfl; exact absurd h (by decide)
  unfold read
  split <;> simp_all

/-- The numeral of a number within the bound reads back as that number. -/
theorem read_write {bound n : Nat} (h : n ≤ bound) : read bound (write n) = .ok n := by
  have hdigits : ∀ c ∈ write n, c.isDigit = true := fun c hc =>
    Nat.isDigit_of_mem_toDigits (by decide) (by decide) hc
  have hvalue : Nat.ofDigitChars 10 (write n) 0 = n := Nat.ofDigitChars_ten_toDigits
  obtain ⟨c, rest, hw⟩ := List.exists_cons_of_ne_nil (Nat.toDigits_ne_nil (n := n) (b := 10))
  have hw : write n = c :: rest := hw
  rw [hw] at hdigits hvalue ⊢
  rw [read_of_isDigit (hdigits c List.mem_cons_self), readDigits_eq_ok hdigits (hvalue ▸ h), hvalue]

/-! ### Numbers with a fixed number of places -/

/-- The quotient rounded to the nearest natural number, from halfway to the even one. -/
def roundDiv (n d : Nat) : Nat :=
  let q := n / d
  let r := n % d
  if 2 * r < d then q
  else if d < 2 * r then q + 1
  else if q % 2 = 0 then q else q + 1

/-- The highest bit of the natural number of a normal floating-point number, which is not among
its 64 bits. -/
def hidden : Nat := 0x10000000000000

/-- The natural number and the power of two whose product is the magnitude of a finite number,
given by its 64 bits. -/
def magnitude (bits : Nat) : Nat × Int :=
  let fraction := bits % hidden
  let exponent := bits / hidden % 0x800
  if exponent = 0 then (fraction, -1074) else (hidden + fraction, Int.ofNat exponent - 1075)

/-- A natural number times a power of two, in units of the last place and rounded. -/
def units (places : Nat) (m : Nat) (power : Int) : Nat :=
  let scaled := m * Nat.pow 10 places
  if 0 ≤ power then scaled * Nat.pow 2 power.toNat
  else roundDiv scaled (Nat.pow 2 (-power).toNat)

/-- A number of units of the last place, with the point in front of the places. -/
def writeUnits (places n : Nat) : List Char :=
  let one := Nat.pow 10 places
  let digits := write (n % one)
  write (n / one) ++ '.' :: (List.replicate (places - digits.length) '0' ++ digits)

/-- A finite number that is not negative, with one or more decimal places. -/
def writePlaces (places : Nat) (x : Float) : List Char :=
  let (m, power) := magnitude x.toBits.toNat
  writeUnits places (units places m power)

end GpuLedger.Decimal
