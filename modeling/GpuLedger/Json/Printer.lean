import GpuLedger.Hexadecimal
import GpuLedger.Json.Basic

/-!
# Writing JSON

Documents are written in two layouts, `Json.compact` without any white space and `Json.pretty`
with one item or member a line, indented by two spaces for each level. In both, characters are
written as they are, apart from quotes, backslashes and control characters. A document that
breaks off is written up to the break.
-/

namespace GpuLedger.Json

/-- How a character is written inside a string literal. -/
def escapeChar (c : Char) : List Char :=
  match c with
  | '"' => ['\\', '"']
  | '\\' => ['\\', '\\']
  | '\x08' => ['\\', 'b']
  | '\x0c' => ['\\', 'f']
  | '\n' => ['\\', 'n']
  | '\r' => ['\\', 'r']
  | '\t' => ['\\', 't']
  | c => if c.toNat < 0x20 then ['\\', 'u'] ++ Hexadecimal.write 4 c.toNat else [c]

/-- How a unit of a string literal is written. -/
def Piece.write : Piece → List Char
  | .char c => escapeChar c
  | .half unit => ['\\', 'u'] ++ Hexadecimal.write 4 unit

/-- A string literal. -/
def Chars.write (t : Chars) : List Char :=
  '"' :: (t.pieces.flatMap Piece.write ++ if t.stop.isNone then ['"'] else [])

/-- A number. -/
def Number.write (n : Number) : List Char :=
  (if n.negative then ['-'] else []) ++ n.whole
    ++ (if n.fraction.isEmpty then [] else '.' :: n.fraction)
    ++ match n.exponent with
      | none => []
      | some e => 'e' :: (if e < 0 then ['-'] else []) ++ Decimal.write e.natAbs

/-- A word. -/
def writeBool (b : Bool) : List Char :=
  if b then ['t', 'r', 'u', 'e'] else ['f', 'a', 'l', 's', 'e']

/-! ### Without white space -/

mutual

/-- A document without white space. -/
def compact : Json → List Char
  | .null => ['n', 'u', 'l', 'l']
  | .bool b => writeBool b
  | .number n => n.write
  | .string t => t.write
  | .array items cut => '[' :: (compactItems items ++ if cut.isNone then [']'] else [])
  | .object members cut =>
    '\x7b' :: (compactMembers members ++ if cut.isNone then ['\x7d'] else [])
  | .broken _ => []
termination_by structural j => j

/-- Items with commas between them. -/
def compactItems : List Json → List Char
  | [] => []
  | [v] => compact v
  | v :: rest => compact v ++ ',' :: compactItems rest
termination_by structural items => items

/-- Members with commas between them. -/
def compactMembers : List (Chars × Json) → List Char
  | [] => []
  | [(name, v)] => name.write ++ ':' :: compact v
  | (name, v) :: rest => name.write ++ ':' :: compact v ++ ',' :: compactMembers rest
termination_by structural members => members

end

/-! ### One item a line -/

/-- A new line at a depth. -/
def newLine (depth : Nat) : List Char :=
  '\n' :: List.replicate (2 * depth) ' '

mutual

/-- A document with one item or member a line, inside other documents of a depth. -/
def prettyAt (depth : Nat) : Json → List Char
  | .null => ['n', 'u', 'l', 'l']
  | .bool b => writeBool b
  | .number n => n.write
  | .string t => t.write
  | .array [] cut => '[' :: if cut.isNone then [']'] else []
  | .array (v :: rest) cut =>
    '[' :: (newLine (depth + 1) ++ prettyAt (depth + 1) v ++ prettyItems (depth + 1) rest
      ++ if cut.isNone then newLine depth ++ [']'] else [])
  | .object [] cut => '\x7b' :: if cut.isNone then ['\x7d'] else []
  | .object ((name, v) :: rest) cut =>
    '\x7b' :: (newLine (depth + 1) ++ name.write ++ ':' :: ' ' :: prettyAt (depth + 1) v
      ++ prettyMembers (depth + 1) rest
      ++ if cut.isNone then newLine depth ++ ['\x7d'] else [])
  | .broken _ => []
termination_by structural j => j

/-- Items after the first one, each on a line of its own. -/
def prettyItems (depth : Nat) : List Json → List Char
  | [] => []
  | v :: rest => ',' :: newLine depth ++ prettyAt depth v ++ prettyItems depth rest
termination_by structural items => items

/-- Members after the first one, each on a line of its own. -/
def prettyMembers (depth : Nat) : List (Chars × Json) → List Char
  | [] => []
  | (name, v) :: rest =>
    ',' :: newLine depth ++ name.write ++ ':' :: ' ' :: prettyAt depth v
      ++ prettyMembers depth rest
termination_by structural members => members

end

/-- A document with one item or member a line. -/
def pretty (j : Json) : List Char :=
  prettyAt 0 j

/-- The text of a document without white space. -/
def compactText (j : Json) : String :=
  String.ofList j.compact

/-- The text of a document with one item or member a line. -/
def prettyText (j : Json) : String :=
  String.ofList j.pretty

end GpuLedger.Json
