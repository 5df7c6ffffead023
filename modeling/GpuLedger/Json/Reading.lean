import GpuLedger.Json.Document

/-!
# Reading values out of documents

A reader takes a document and gives a value of its type or refuses it. Documents are read from
the left, and the first thing that is wrong counts, be it the text or what the text says. What a
reader has no use for is passed over (`Json.skip`), which needs the text to be JSON and nothing
more.

## Conventions

Most readers do not care where a document comes from. Two do (`Origin`): a text is read while
it is being made out, and what was embedded in another document has been made out before.
-/

namespace GpuLedger.Json

/-- Why a document is refused. -/
inductive Refusal where
  /-- It is no JSON. -/
  | text (fault : Fault)
  /-- It is a value of another type. -/
  | wrongType
  /-- It is a number outside the range that is wanted. -/
  | wrongValue
  /-- It is a list of that many items standing for a record of another number of members. -/
  | wrongLength (length : Nat)
  /-- A record lacks a member. -/
  | missing (name : String)
  /-- A record has a member twice. -/
  | duplicate (name : String)
  /-- A word is none of those that may stand there. -/
  | unknownWord (word : String)
  /-- A text is no unique identifier. -/
  | badUuid
deriving DecidableEq

/-- The part of a wording in front of the first colon, comma or mention of a line. -/
def wordingHead : List Char → List Char
  | [] => []
  | c :: rest =>
    if c = ':' || c = ',' || " at line ".toList.isPrefixOf (c :: rest) then []
    else c :: wordingHead rest

/-- The wording of a refusal. A word that is quoted in it is cut like the rest. -/
def Refusal.message : Refusal → String
  | text .malformed => "syntax"
  | text .truncated => "eof"
  | wrongType => "invalid type"
  | wrongValue => "invalid value"
  | wrongLength length => "invalid length " ++ String.ofList (Decimal.write length)
  | missing name => "missing field `" ++ name ++ "`"
  | duplicate name => "duplicate field `" ++ name ++ "`"
  | unknownWord word =>
    String.ofList (wordingHead ("unknown variant `" ++ word ++ "`").toList)
  | badUuid => "UUID parsing failed"

/-- A value, or why there is none. -/
abbrev Read (α : Type) := Except Refusal α

/-- Where a document comes from. -/
inductive Origin where
  /-- A text of its own. -/
  | text
  /-- A part of another document. -/
  | embedded
deriving DecidableEq

/-! ### Passing over a document -/

/-- The fault of a text whose members do not go on, for a reader of names or one that passes
over them. -/
def Cut.fault (name : Chars → Option Fault) : Cut → Fault
  | .separator f => f
  | .name none => .truncated
  | .name (some (.string t)) => (name t).getD .malformed
  | .name (some _) => .malformed

mutual

/-- The first fault in a document that nothing is wanted of. Halves of characters and numbers
of any size may stand in it. -/
def firstFault : Json → Option Fault
  | .null => none
  | .bool _ => none
  | .number _ => none
  | .string t => t.stop
  | .array items cut => (firstFaultItems items).or cut
  | .object members cut => (firstFaultMembers members).or (cut.map (Cut.fault Chars.stop))
  | .broken b => some b.skipped
termination_by structural j => j

/-- The first fault in items that nothing is wanted of. -/
def firstFaultItems : List Json → Option Fault
  | [] => none
  | v :: rest => (firstFault v).or (firstFaultItems rest)
termination_by structural items => items

/-- The first fault in members that nothing is wanted of. -/
def firstFaultMembers : List (Chars × Json) → Option Fault
  | [] => none
  | (_, v) :: rest => (firstFault v).or (firstFaultMembers rest)
termination_by structural members => members

end

/-- Passes over a document. -/
def skip (j : Json) : Read Unit :=
  match j.firstFault with
  | none => .ok ()
  | some f => .error (.text f)

/-! ### Single values -/

/-- The characters of a literal. -/
def readChars (t : Chars) : Read String :=
  t.read.mapError .text

/-- Refuses a document where a value of another type is wanted. Arrays and objects are refused
without a look at what is inside; numbers and string literals are read first. -/
def refuse {α : Type} : Json → Read α
  | .broken b => .error (.text b.read)
  | .number n => .error (if n.overflows then .text .malformed else .wrongType)
  | .string t =>
    match t.read with
    | .ok _ => .error .wrongType
    | .error f => .error (.text f)
  | _ => .error .wrongType

/-- Reads a text. -/
def readString : Json → Read String
  | .string t => readChars t
  | j => refuse j

/-- Reads a truth value. -/
def readBool : Json → Read Bool
  | .bool b => .ok b
  | j => refuse j

/-- Reads a natural number up to a bound. An integer that no word of 64 bits holds counts as a
number of another type, and so does minus zero. -/
def readNat (bound : Nat) : Json → Read Nat
  | .number n =>
    match n.integer? with
    | some (false, magnitude) =>
      if magnitude ≤ bound then .ok magnitude
      else if magnitude < UInt64.size then .error .wrongValue
      else refuse (.number n)
    | some (true, magnitude) =>
      if 0 < magnitude && magnitude ≤ Quantity.signedBound then .error .wrongValue
      else refuse (.number n)
    | none => refuse (.number n)
  | j => refuse j

/-- Reads a quantity. -/
def readQuantity (j : Json) : Read Quantity :=
  (readNat (UInt64.size - 1) j).map UInt64.ofNat

/-! ### Lists and maps -/

/-- Reads items in order. -/
def readItems {α : Type} (read : Json → Read α) : List Json → Read (List α)
  | [] => .ok []
  | v :: rest => do
    let a ← read v
    let as ← readItems read rest
    return a :: as

/-- Reads a list. -/
def readList {α : Type} (read : Json → Read α) : Json → Read (List α)
  | .array items cut => do
    let as ← readItems read items
    match cut with
    | none => return as
    | some f => .error (.text f)
  | j => refuse j

/-- Reads members of any names in order. -/
def readMembers {α : Type} (read : Json → Read α) :
    List (Chars × Json) → Read (List (String × α))
  | [] => .ok []
  | (name, v) :: rest => do
    let s ← readChars name
    let a ← read v
    let as ← readMembers read rest
    return (s, a) :: as

/-- The fault that ends the members of an object whose names are wanted. -/
def Cut.refusal (cut : Cut) : Refusal :=
  .text (cut.fault fun t => match t.read with
    | .ok _ => none
    | .error f => some f)

/-- Reads the members of an object of any names. -/
def readObject {α : Type} (read : Json → Read α) : Json → Read (List (String × α))
  | .object members cut => do
    let as ← readMembers read members
    match cut with
    | none => return as
    | some c => .error c.refusal
  | j => refuse j

/-! ### Words -/

/-- Reads one of several words. It may also stand as the name of the only member of an object
with nothing as its value. -/
def readWord {α : Type} (origin : Origin) (ofName? : String → Option α) (j : Json) : Read α :=
  let known (t : Chars) : Read α := do
    let word ← readChars t
    (ofName? word).elim (.error (.unknownWord word)) .ok
  match origin, j with
  | _, .string t => known t
  | .text, .object [] (some cut) => .error cut.refusal
  | .text, .object [] none => .error (.text .malformed)
  | .text, .object ((t, v) :: rest) cut => do
    let a ← known t
    match v with
    | .null =>
      match rest, cut with
      | [], none => return a
      | [], some (.separator f) => .error (.text f)
      | _, _ => .error (.text .malformed)
    | v => refuse v
  | .embedded, .object [(t, v)] _ => do
    let a ← known t
    match v with
    | .null => return a
    | v => refuse v
  | .embedded, .object _ _ => .error .wrongValue
  | .text, .broken b => .error (.text b.begun)
  | .text, _ => .error (.text .malformed)
  | .embedded, j => refuse j

/-! ### Whole texts -/

/-- Reads a text that holds one document. -/
def readText {α : Type} (read : Json → Read α) (text : String) : Read α := do
  let d := document text.toList
  let a ← read d.value
  if d.trailing then .error (.text .malformed) else return a

end GpuLedger.Json
