import GpuLedger.Hexadecimal

/-!
# Unique identifiers

A workload carries a number of 128 bits that tells it from every other. It is written as 32
hexadecimal digits in groups of 8, 4, 4, 4 and 12 with hyphens between them (`Uuid.write`), in
lower case. Three more spellings are read (`Uuid.read?`): the 32 digits alone, and the grouped
form inside braces or after the name `urn:uuid:`. Case does not matter in any of them.
-/

namespace GpuLedger

/-- A number of 128 bits that identifies a workload. -/
structure Uuid where
  bits : BitVec 128
deriving DecidableEq

namespace Uuid

/-- The lengths of the groups of digits. -/
def groups : List Nat := [8, 4, 4, 4, 12]

/-- The identifier of random bits. Six of them are set to say that the others are random. -/
def ofRandom (bits : BitVec 128) : Uuid :=
  let kind : BitVec 128 := 0xF <<< 76 ||| 0x3 <<< 62
  let random : BitVec 128 := 0x4 <<< 76 ||| 0x2 <<< 62
  ⟨(bits &&& ~~~kind) ||| random⟩

/-! ### Writing -/

/-- Digits in groups, with a hyphen between two groups. -/
def hyphenate : List Nat → List Char → List Char
  | [], digits => digits
  | [_], digits => digits
  | width :: rest, digits => digits.take width ++ '-' :: hyphenate rest (digits.drop width)

/-- The written form of an identifier. -/
def write (u : Uuid) : List Char :=
  hyphenate groups (Hexadecimal.write 32 u.bits.toNat)

/-! ### Reading -/

/-- The digits of a text in groups, if its hyphens stand where they should. -/
def unhyphenate? : List Nat → List Char → Option (List Char)
  | [], text => if text.isEmpty then some [] else none
  | [width], text => if text.length = width then some text else none
  | width :: rest, text =>
    match text.drop width with
    | '-' :: tail => (unhyphenate? rest tail).map (text.take width ++ ·)
    | _ => none

/-- The rest of a text after a name, which may be spelled in either case. -/
def afterName? : List Char → List Char → Option (List Char)
  | [], text => some text
  | n :: name, c :: text => if c.toLower = n then afterName? name text else none
  | _ :: _, [] => none

/-- The digits of an identifier in one of its four spellings, which differ in length. -/
def digits? (text : List Char) : Option (List Char) :=
  match text.length with
  | 32 => some text
  | 36 => unhyphenate? groups text
  | 38 =>
    match text with
    | '\x7b' :: rest =>
      if rest.getLast? = some '\x7d' then unhyphenate? groups rest.dropLast else none
    | _ => none
  | 45 => (afterName? "urn:uuid:".toList text).bind (unhyphenate? groups)
  | _ => none

/-- Reads an identifier in one of its four spellings. -/
def read? (text : List Char) : Option Uuid :=
  ((digits? text).bind Hexadecimal.read?).map fun n => ⟨BitVec.ofNat 128 n⟩

end Uuid

end GpuLedger
