import GpuLedger.Decimal

/-!
# JSON texts

A text that should be JSON but breaks off or goes wrong somewhere is still a document up to that
place, and what is wrong with it depends on what its reader wanted there: a reader that expects a
number and finds a list refuses the list without looking into it. So the type `Json` holds as
much of a text as could be made out. The place where the text stops making sense is part of the
value: inside a string literal (`Chars.stop`), where a value should begin (`Json.broken`), or
between the items of an array or the members of an object (`cut`). After that place nothing
follows, so a text has at most one.

## Conventions

A text is `malformed` at a character that cannot stand where it does, and `truncated` where it
ends too early.
-/

namespace GpuLedger

namespace Json

/-- How a text fails to be JSON. -/
inductive Fault where
  /-- A character cannot stand where it does. -/
  | malformed
  /-- The text ends too early. -/
  | truncated
deriving DecidableEq

/-! ### String literals -/

/-- One unit of a string literal. -/
inductive Piece where
  /-- A character, as it is or escaped. -/
  | char (c : Char)
  /-- An escaped code unit that is only half of a character, a surrogate. -/
  | half (unit : Nat)
deriving DecidableEq

/-- The inside of a string literal, and the fault that ends it if its closing quote is not
reached. -/
structure Chars where
  pieces : List Piece
  stop : Option Fault := none
deriving DecidableEq

namespace Chars

/-- The literal of a text. -/
def ofString (s : String) : Chars := ⟨s.toList.map .char, none⟩

/-- One more unit in front. -/
def cons (p : Piece) (t : Chars) : Chars := { t with pieces := p :: t.pieces }

/-- Whether a code unit is the first half of a character. -/
def isLeading (unit : Nat) : Bool := 0xD800 ≤ unit && unit < 0xDC00

/-- Whether a code unit is the second half of a character. -/
def isTrailing (unit : Nat) : Bool := 0xDC00 ≤ unit && unit < 0xE000

/-- The character of two halves. -/
def join (leading trailing : Nat) : Char :=
  Char.ofNat (0x10000 + (leading - 0xD800) * 0x400 + (trailing - 0xDC00))

/-- The characters of the pieces of a literal that ends with the fault, if any. Halves have to
come in pairs; a first half with which the text ends may still get its second one. -/
def readPieces (stop : Option Fault) : List Piece → Except Fault (List Char)
  | [] => stop.elim (.ok []) .error
  | .char c :: rest => (readPieces stop rest).map (c :: ·)
  | [.half unit] => .error (if isLeading unit then stop.getD .malformed else .malformed)
  | .half first :: .half second :: rest =>
    if isLeading first && isTrailing second then
      (readPieces stop rest).map (join first second :: ·)
    else
      .error .malformed
  | .half _ :: .char _ :: _ => .error .malformed

/-- The text a literal stands for. -/
def read (t : Chars) : Except Fault String :=
  (readPieces t.stop t.pieces).map String.ofList

end Chars

/-! ### Numbers -/

/-- A number as it is written: digits before the point, digits after it, and a power of ten. -/
structure Number where
  negative : Bool := false
  whole : List Char
  fraction : List Char := []
  exponent : Option Int := none
deriving DecidableEq

namespace Number

/-- The number of a natural number. -/
def ofNat (n : Nat) : Number := { whole := Decimal.write n }

/-- The integer that a number without point and power of ten stands for. The sign is kept apart,
so that minus zero is not zero. -/
def integer? (n : Number) : Option (Bool × Nat) :=
  match n.fraction, n.exponent with
  | [], none => some (n.negative, Nat.ofDigitChars 10 n.whole 0)
  | _, _ => none

/-- The digits of a number that fit a word of 64 bits behind a value known so far, and how many
are left over. -/
def leadingWord (value : Nat) : List Char → Nat × Nat
  | [] => (value, 0)
  | c :: rest =>
    let next := 10 * value + (c.toNat - '0'.toNat)
    if next < UInt64.size then leadingWord next rest else (value, rest.length + 1)

/-- Whether the magnitude is beyond the largest binary floating-point number of 64 bits. It is
taken from the leading digits that fit a word, times a power of ten. -/
def overflows (n : Number) : Bool :=
  let (whole, skipped) := leadingWord 0 n.whole
  let (significand, left) := leadingWord whole n.fraction
  let power : Int := skipped - (n.fraction.length - left : Nat) + n.exponent.getD 0
  if significand = 0 || power < 0 then false
  else if power ≤ 308 then
    ((UInt64.ofNat significand).toFloat * Float.ofScientific 1 false power.toNat).isInf
  else true

end Number

/-! ### Documents -/

/-- A place where no value can be made out. -/
inductive Break where
  /-- The text ends. -/
  | absent
  /-- A character with which no value begins. -/
  | foreign
  /-- A word that does not go on as it should. -/
  | word (fault : Fault)
  /-- A number that lacks a digit, or has a zero in front of others. -/
  | number (fault : Fault)
deriving DecidableEq

namespace Break

/-- The fault for a reader that wants to know what the value is. -/
def read : Break → Fault
  | absent => .truncated
  | foreign => .malformed
  | word fault => fault
  | number fault => fault

/-- The fault for a reader that only passes over the value. A number that is not complete is
malformed for it, even where the text ends inside the number. -/
def skipped : Break → Fault
  | absent => .truncated
  | foreign => .malformed
  | word fault => fault
  | number _ => .malformed

/-- The fault for a reader that wants no such value and looks only at where it begins. -/
def begun : Break → Fault
  | absent => .truncated
  | _ => .malformed

end Break

/-- The units a text is made of. -/
inductive Token where
  | objectStart
  | objectEnd
  | arrayStart
  | arrayEnd
  | colon
  | comma
  | null
  | bool (b : Bool)
  | number (n : Number)
  | string (t : Chars)
  | broken (b : Break)
deriving DecidableEq

/-- Why the members of an object do not go on. -/
inductive Cut where
  /-- There is no comma or closing brace where one of them should be. -/
  | separator (fault : Fault)
  /-- There is no name where one should be. The text goes on with the given unit or ends. -/
  | name (found : Option Token)
deriving DecidableEq

end Json

/-- A JSON text as far as it could be made out. -/
inductive Json where
  | null
  | bool (b : Bool)
  | number (n : Json.Number)
  | string (t : Json.Chars)
  /-- The items of an array, and the fault because of which it does not go on. -/
  | array (items : List Json) (cut : Option Json.Fault)
  /-- The members of an object, and the reason for which it does not go on. -/
  | object (members : List (Json.Chars × Json)) (cut : Option Json.Cut)
  /-- No value. -/
  | broken (b : Json.Break)

namespace Json

/-- The document of a text. -/
def ofString (s : String) : Json := .string (.ofString s)

/-- The document of a natural number. -/
def ofNat (n : Nat) : Json := .number (.ofNat n)

/-- The document of several documents in order. -/
def ofList (items : List Json) : Json := .array items none

/-- The document of several documents with names. -/
def ofMembers (members : List (String × Json)) : Json :=
  .object (members.map fun m => (.ofString m.1, m.2)) none

end Json

end GpuLedger
