import GpuLedger.Toml.Number
import GpuLedger.Toml.Text

/-!
# Reading TOML

`Toml.document?` reads a document line by line. A line is empty, opens a table or an element of a
list of tables by a header, or gives a name a value; it may end with a comment. Values may go
over several lines inside the brackets of a list.

## Conventions

Lists and tables may stand inside each other to a depth of 79. The readers of values run on a
fuel of their own, which is always enough: each round takes at least one character of the text,
and `Toml.document?` provides more rounds than the text has characters.
-/

namespace GpuLedger.Toml

/-- How deep values may stand inside each other, and how many parts a dotted name may have. -/
def deepest : Nat := 79

/-! ### Names -/

/-- A character of a name without quotes. -/
def isBare (c : Char) : Bool :=
  c.isAlphanum || c = '_' || c = '-'

/-- One part of a name. -/
def namePart? : Step String := fun text =>
  match text with
  | '"' :: _ => quotedName? text
  | '\'' :: _ => quotedName? text
  | _ =>
    match text.takeWhile isBare with
    | [] => none
    | bare => some (String.ofList bare, text.drop bare.length)

/-- The parts of a dotted name, with blanks around them. The fuel bounds their number. -/
def nameParts? : Nat → Step (List String)
  | 0, _ => none
  | fuel + 1, text => do
    let (part, rest) ← namePart? (skipGap text)
    match skipGap rest with
    | '.' :: rest => do
      let (more, rest) ← nameParts? fuel rest
      return (part :: more, rest)
    | rest => return ([part], rest)

/-- A name: the path to its table, and the name there. -/
def name? : Step (List String × String) := fun text => do
  let (parts, rest) ← nameParts? deepest text
  let last ← parts.getLast?
  return ((parts.dropLast, last), rest)

/-! ### Ends of lines -/

/-- The text after a comment, from behind its mark. -/
def skipComment (text : List Char) : List Char :=
  text.dropWhile isPrintable

/-- The text after the end of a line, which may be the end of the text. -/
def lineEnd? (text : List Char) : Option (List Char) :=
  if text.isEmpty then some [] else newLine? text

/-- The text after what may follow on a line. -/
def restOfLine? (text : List Char) : Option (List Char) :=
  match skipGap text with
  | '#' :: comment => lineEnd? (skipComment comment)
  | rest => lineEnd? rest

/-- The text after blanks, line breaks and comments, as they may stand inside a list. The fuel
bounds the number of characters. -/
def skipBetween? : Nat → List Char → Option (List Char)
  | 0, _ => none
  | fuel + 1, text =>
    match skipGap text with
    | '#' :: comment =>
      match newLine? (skipComment comment) with
      | some rest => skipBetween? fuel rest
      | none => none
    | rest =>
      match newLine? rest with
      | some rest => skipBetween? fuel rest
      | none => some rest

/-! ### Values -/

/-- A character of a word without quotes. -/
def isWordChar (c : Char) : Bool :=
  c.isAlphanum || c = '_' || c = '-' || c = '+' || c = '.' || c = ':'

/-- A value that is a word without quotes. A day and a time may have a blank between them. -/
def bareValue? : Step Toml := fun text =>
  let word := text.takeWhile isWordChar
  let rest := text.drop word.length
  match rest with
  | ' ' :: c :: more =>
    if isDay word && c.isDigit then
      let time := (c :: more).takeWhile isWordChar
      (word? (word ++ ' ' :: time)).map (·, (c :: more).drop time.length)
    else (word? word).map (·, rest)
  | _ => (word? word).map (·, rest)

mutual

/-- A value inside so many others. -/
def value? : Nat → Nat → Step Toml
  | 0, _, _ => none
  | fuel + 1, depth, text =>
    match text with
    | '"' :: _ => (text? text).map fun r => (.string r.1, r.2)
    | '\'' :: _ => (text? text).map fun r => (.string r.1, r.2)
    | '[' :: rest =>
      if depth < deepest then
        (items? fuel (depth + 1) rest).map fun r => (.list r.1, r.2)
      else none
    | '\x7b' :: rest =>
      if depth < deepest then
        match skipGap rest with
        | '\x7d' :: rest => some (.table .inline [], rest)
        | rest => (members? fuel (depth + 1) [] rest).map fun r => (.table .inline r.1, r.2)
      else none
    | text => bareValue? text

/-- The items of a list, from behind its bracket or a comma. -/
def items? : Nat → Nat → Step (List Toml)
  | 0, _, _ => none
  | fuel + 1, depth, text => do
    match ← skipBetween? (text.length + 1) text with
    | ']' :: rest => return ([], rest)
    | text => do
      let (v, rest) ← value? fuel depth text
      match ← skipBetween? (rest.length + 1) rest with
      | ',' :: rest => do
        let (more, rest) ← items? fuel depth rest
        return (v :: more, rest)
      | ']' :: rest => return ([v], rest)
      | _ => none

/-- The members of a table in one piece, behind those read so far. -/
def members? : Nat → Nat → Entries → Step Entries
  | 0, _, _, _ => none
  | fuel + 1, depth, entries, text => do
    let ((path, name), rest) ← name? text
    match rest with
    | '=' :: rest => do
      let (v, rest) ← value? fuel depth (skipGap rest)
      let entries ← assign? path name v .inline entries
      match skipGap rest with
      | ',' :: rest => members? fuel depth entries rest
      | '\x7d' :: rest => return (entries, rest)
      | _ => none
    | _ => none

end

/-! ### Lines -/

/-- What has been read of a document: its values, and the path of the table opened last. -/
structure Progress where
  entries : Entries := []
  header : List String := []

/-- The progress after a header, from behind its first bracket. -/
def header? (p : Progress) (text : List Char) : Option (Progress × List Char) := do
  match text with
  | '[' :: text => do
    let ((path, name), rest) ← name? text
    match rest with
    | ']' :: ']' :: rest => do
      let rest ← restOfLine? rest
      return (⟨← openElement? path name p.entries, path ++ [name]⟩, rest)
    | _ => none
  | text => do
    let ((path, name), rest) ← name? text
    match rest with
    | ']' :: rest => do
      let rest ← restOfLine? rest
      return (⟨← openTable? path name p.entries, path ++ [name]⟩, rest)
    | _ => none

/-- The progress after a line that gives a name a value. -/
def assignment? (p : Progress) (text : List Char) : Option (Progress × List Char) := do
  let ((path, name), rest) ← name? text
  match rest with
  | '=' :: rest => do
    let (v, rest) ← value? (rest.length + 1) 0 (skipGap rest)
    let rest ← restOfLine? rest
    return ({ p with entries := ← assignIn? p.header path name v p.entries }, rest)
  | _ => none

/-- The values of a document from a place on. The fuel bounds the number of lines. -/
def lines : Nat → Progress → List Char → Option Entries
  | 0, _, _ => none
  | fuel + 1, p, text =>
    match skipGap text with
    | [] => some p.entries
    | '#' :: comment => (lineEnd? (skipComment comment)).bind (lines fuel p)
    | '[' :: rest => (header? p rest).bind fun r => lines fuel r.1 r.2
    | rest =>
      match newLine? rest with
      | some rest => lines fuel p rest
      | none => (assignment? p rest).bind fun r => lines fuel r.1 r.2

/-- The values of a document. A byte order mark in front of it does not count. -/
def document? (text : List Char) : Option Entries :=
  let text := if text.head? = some '\uFEFF' then text.drop 1 else text
  lines (text.length + 1) {} text

end GpuLedger.Toml
