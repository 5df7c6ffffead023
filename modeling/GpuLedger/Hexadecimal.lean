/-!
# Hexadecimal numerals

Numbers in sixteen digits, of which those above nine are written in lower case and read in
either case.
-/

namespace GpuLedger.Hexadecimal

/-- The lowest `width` digits of a number, the highest of them first. -/
def write : Nat → Nat → List Char
  | 0, _ => []
  | width + 1, n => write width (n / 16) ++ [Nat.digitChar (n % 16)]

/-- The value of a digit of either case. -/
def digit? (c : Char) : Option Nat :=
  if '0' ≤ c ∧ c ≤ '9' then some (c.toNat - '0'.toNat)
  else if 'a' ≤ c ∧ c ≤ 'f' then some (c.toNat - 'a'.toNat + 10)
  else if 'A' ≤ c ∧ c ≤ 'F' then some (c.toNat - 'A'.toNat + 10)
  else none

/-- The number of digits that follow others of a known value. -/
def readFrom? : Nat → List Char → Option Nat
  | value, [] => some value
  | value, c :: rest => (digit? c).bind fun d => readFrom? (16 * value + d) rest

/-- The number that a text of digits stands for; zero for no digits. -/
def read? (digits : List Char) : Option Nat :=
  readFrom? 0 digits

/-! ### Numerals read back -/

/-- A number is written with as many digits as the width says. -/
@[simp] theorem length_write (width n : Nat) : (write width n).length = width := by
  induction width generalizing n with
  | zero => rfl
  | succ width ih => simp [write, ih]

/-- A digit reads as the value it was written for. -/
theorem digit?_digitChar {d : Nat} (h : d < 16) : digit? (Nat.digitChar d) = some d := by
  have : ∀ d : Fin 16, digit? (Nat.digitChar d.1) = some d.1 := by decide
  exact this ⟨d, h⟩

/-- Digits in two parts are read one part after the other. -/
theorem readFrom?_append {value : Nat} {a b : List Char} :
    readFrom? value (a ++ b) = (readFrom? value a).bind fun v => readFrom? v b := by
  induction a generalizing value with
  | nil => rfl
  | cons c rest ih =>
    simp only [List.cons_append, readFrom?]
    cases digit? c with
    | none => rfl
    | some d => exact ih

/-- The last digits of a number that are written are read behind a value that is known. -/
theorem readFrom?_write (width n value : Nat) :
    readFrom? value (write width n) =
      some (Nat.pow 16 width * value + n % Nat.pow 16 width) := by
  induction width generalizing n with
  | zero => simp [write, readFrom?, Nat.pow, Nat.mod_one]
  | succ width ih =>
    have hd : n % 16 < 16 := Nat.mod_lt _ (by decide)
    have hpow : Nat.pow 16 (width + 1) = 16 * Nat.pow 16 width := Nat.pow_succ'
    simp only [write, readFrom?_append, ih, Option.bind_some, readFrom?, digit?_digitChar hd,
      hpow, Nat.mod_mul]
    generalize Nat.pow 16 width = p
    generalize n / 16 % p = q
    have : 16 * p * value = 16 * (p * value) := Nat.mul_assoc ..
    congr 1
    omega

/-- A number that has no more digits than are written reads back. -/
theorem read?_write {width n : Nat} (h : n < Nat.pow 16 width) :
    read? (write width n) = some n := by
  rw [read?, readFrom?_write, Nat.mod_eq_of_lt h, Nat.mul_zero, Nat.zero_add]

end GpuLedger.Hexadecimal
