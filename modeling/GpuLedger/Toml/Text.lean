import GpuLedger.Hexadecimal

/-!
# Texts in TOML

A text stands between single quotes as it is, or between double quotes with escapes. With three
quotes on each side it may have several lines; then a line break right after the opening quotes
does not count, a backslash at the end of a line joins it to the next text, and one or two quotes
may stand next to the closing ones.

## Conventions

Every reader takes a text from some place on and gives what it has read with the rest of the
text, or nothing if what stands there is no such thing.
-/

namespace GpuLedger.Toml

/-- Reads something at the beginning of a text. -/
abbrev Step (α : Type) := List Char → Option (α × List Char)

/-- A blank inside a line. -/
def isGap (c : Char) : Bool := c = ' ' || c = '\t'

/-- The text after the blanks of a line. -/
def skipGap (text : List Char) : List Char := text.dropWhile isGap

/-- The text after a line break. -/
def newLine? : List Char → Option (List Char)
  | '\n' :: rest => some rest
  | '\r' :: '\n' :: rest => some rest
  | _ => none

/-- A character that may stand in a comment: a tab or any character that is no control
character of ASCII. -/
def isPrintable (c : Char) : Bool :=
  c = '\t' || (0x20 ≤ c.toNat && c.toNat ≠ 0x7F)

/-! ### Escapes -/

/-- A character by the hexadecimal digits of its code point. -/
def codePoint? (width : Nat) : Step Char := fun text =>
  if (text.take width).length = width then do
    let code ← Hexadecimal.read? (text.take width)
    if code.isValidChar then return (Char.ofNat code, text.drop width) else none
  else none

/-- The character that an escape stands for, from behind its backslash. -/
def escaped? : Step Char
  | 'b' :: rest => some ('\x08', rest)
  | 't' :: rest => some ('\t', rest)
  | 'n' :: rest => some ('\n', rest)
  | 'f' :: rest => some ('\x0c', rest)
  | 'r' :: rest => some ('\r', rest)
  | '"' :: rest => some ('"', rest)
  | '\\' :: rest => some ('\\', rest)
  | 'u' :: rest => codePoint? 4 rest
  | 'U' :: rest => codePoint? 8 rest
  | _ => none

/-! ### Texts of one line -/

/-- The rest of a text between single quotes. -/
def literal? : Step (List Char)
  | [] => none
  | c :: rest =>
    if c = '\'' then some ([], rest)
    else if isPrintable c then (literal? rest).map fun r => (c :: r.1, r.2)
    else none

/-- The rest of a text between double quotes. The fuel bounds the number of characters. -/
def basic? : Nat → Step (List Char)
  | 0, _ => none
  | _ + 1, [] => none
  | fuel + 1, c :: rest =>
    if c = '"' then some ([], rest)
    else if c = '\\' then do
      let (e, rest) ← escaped? rest
      let (more, rest) ← basic? fuel rest
      return (e :: more, rest)
    else if isPrintable c then (basic? fuel rest).map fun r => (c :: r.1, r.2)
    else none

/-! ### Texts of several lines -/

/-- The text after blanks and line breaks. -/
def skipLines : List Char → List Char
  | ' ' :: rest => skipLines rest
  | '\t' :: rest => skipLines rest
  | '\n' :: rest => skipLines rest
  | '\r' :: '\n' :: rest => skipLines rest
  | text => text

/-- The text that continues a line, from behind the backslash at its end. -/
def joinedLine? (text : List Char) : Option (List Char) :=
  (newLine? (skipGap text)).map skipLines

/-- Takes the closing quotes, with up to two quotes that belong to the text. -/
def closing? (quote : Char) (text : List Char) : Option (List Char × List Char) :=
  let quotes := text.takeWhile (· = quote)
  if 3 ≤ quotes.length ∧ quotes.length ≤ 5 then
    some (quotes.drop 3, text.drop quotes.length)
  else none

/-- The rest of a text of several lines. Between double quotes it has escapes. The fuel bounds
the number of characters. -/
def lines? (quote : Char) : Nat → Step (List Char)
  | 0, _ => none
  | _ + 1, [] => none
  | fuel + 1, c :: rest =>
    if c = quote ∧ rest.take 2 = [quote, quote] then closing? quote (c :: rest)
    else if c = '\\' ∧ quote = '"' then
      match joinedLine? rest with
      | some rest => lines? quote fuel rest
      | none => do
        let (e, rest) ← escaped? rest
        let (more, rest) ← lines? quote fuel rest
        return (e :: more, rest)
    else
      match newLine? (c :: rest) with
      | some rest => (lines? quote fuel rest).map fun r => ('\n' :: r.1, r.2)
      | none =>
        if isPrintable c then (lines? quote fuel rest).map fun r => (c :: r.1, r.2) else none

/-- A text with or without several lines. -/
def text? : Step String := fun text =>
  let several (quote : Char) (rest : List Char) :=
    (lines? quote (rest.length + 1) ((newLine? rest).getD rest)).map fun r =>
      (String.ofList r.1, r.2)
  match text with
  | '"' :: '"' :: '"' :: rest => several '"' rest
  | '\'' :: '\'' :: '\'' :: rest => several '\'' rest
  | '"' :: rest => (basic? (rest.length + 1) rest).map fun r => (String.ofList r.1, r.2)
  | '\'' :: rest => (literal? rest).map fun r => (String.ofList r.1, r.2)
  | _ => none

/-- A text of one line, as it may stand for a name. -/
def quotedName? : Step String
  | '"' :: rest => (basic? (rest.length + 1) rest).map fun r => (String.ofList r.1, r.2)
  | '\'' :: rest => (literal? rest).map fun r => (String.ofList r.1, r.2)
  | _ => none

end GpuLedger.Toml
