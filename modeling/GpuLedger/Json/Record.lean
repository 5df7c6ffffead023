import GpuLedger.Json.Reading

/-!
# Records

A record is written as an object with a member for each of its fields, or as an array of their
values in order. In an object the members may come in any order, members of other names are
passed over, and a field with a default may be left out; no field may come twice. In an array
fields may only be left out at the end.

A record is read in two steps. `Record.contents` goes through the text once from the left, checks
every value where it stands, and hands out the values of the fields by their names. Then each
field takes its own value (`FieldSpec.get`), which is where a missing one is noticed, in the order
of the fields.
-/

namespace GpuLedger.Json

/-- A field of a record: its name, how its value is read, and the value it has when it is left
out. -/
structure FieldSpec (α : Type) where
  name : String
  read : Json → Read α
  default : Option α := none

/-- What the first step of reading needs to know of a field. -/
structure FieldRule where
  name : String
  check : Json → Read Unit
  required : Bool

namespace FieldSpec

variable {α : Type}

/-- What the first step of reading needs to know of a field. -/
def rule (f : FieldSpec α) : FieldRule :=
  ⟨f.name, fun j => (f.read j).map fun _ => (), f.default.isNone⟩

/-- The value of a field among the contents of a record. -/
def get (f : FieldSpec α) (contents : List (String × Json)) : Read α :=
  match contents.find? (·.1 = f.name) with
  | some (_, j) => f.read j
  | none => f.default.elim (.error (.missing f.name)) .ok

end FieldSpec

namespace Record

/-- Goes through the members of a record, with those found so far. -/
def scanMembers (fields : List FieldRule) :
    List (String × Json) → List (Chars × Json) → Read (List (String × Json))
  | found, [] => .ok found
  | found, (t, v) :: rest => do
    let name ← readChars t
    match fields.find? (·.name = name) with
    | none => do
      skip v
      scanMembers fields found rest
    | some field =>
      if found.any (·.1 = name) then .error (.duplicate name)
      else do
        field.check v
        scanMembers fields ((name, v) :: found) rest

/-- Goes through the items of a record, of which the given number has been passed. -/
def scanItems (origin : Origin) (length : Nat) (cut : Option Fault) :
    Nat → List FieldRule → List Json → Read (List (String × Json))
  | passed, fields, [] =>
    match cut with
    | some f => .error (.text f)
    | none =>
      match fields.findIdx? (·.required) with
      | some i => .error (.wrongLength (passed + i))
      | none => .ok []
  | _, [], _ :: _ =>
    match origin with
    | .text => .error (.text .malformed)
    | .embedded => .error (.wrongLength length)
  | passed, field :: fields, v :: rest => do
    field.check v
    let found ← scanItems origin length cut (passed + 1) fields rest
    return (field.name, v) :: found

/-- The values of the fields of a record by their names. -/
def contents (origin : Origin) (fields : List FieldRule) : Json → Read (List (String × Json))
  | .object members cut => do
    let found ← scanMembers fields [] members
    match cut with
    | none => return found
    | some c => .error c.refusal
  | .array items cut => scanItems origin items.length cut 0 fields items
  | j => refuse j

end Record

end GpuLedger.Json
