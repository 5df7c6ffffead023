import GpuLedger.Hexadecimal
import GpuLedger.Json.Basic

/-!
# Splitting a text into its units

`Json.tokens` cuts a text into brackets, separators, words, numbers and string literals, and
passes over the white space between them. It stops at the first place where no unit can be made
out, which is the last token it gives: `Token.broken`, or a string literal with a fault.

Each scanner gets the text after the first character of its unit and tells how many characters
of it belong to the unit; `tokensFrom` passes over those.
-/

namespace GpuLedger.Json

/-- White space between the units of a text. -/
def isSpace (c : Char) : Bool :=
  c = ' ' || c = '\n' || c = '\t' || c = '\r'

/-! ### String literals -/

/-- The number of bytes that characters take in UTF-8. -/
def byteCount (text : List Char) : Nat :=
  text.foldr (fun c count => c.utf8Size + count) 0

/-- The value of four hexadecimal digits at the beginning of a text. A text without enough bytes
for them is truncated, whatever the bytes are. -/
def hexQuad (text : List Char) : Except Fault Nat :=
  let quad := text.take 4
  if byteCount quad < 4 then .error .truncated
  else if quad.length < 4 then .error .malformed
  else (Hexadecimal.read? quad).elim (.error .malformed) .ok

/-- The piece of a code unit: a character unless it is a surrogate. -/
def Piece.ofUnit (unit : Nat) : Piece :=
  if Chars.isLeading unit || Chars.isTrailing unit then .half unit else .char (Char.ofNat unit)

/-- What stands after a backslash, and how many characters that takes. -/
def escape : List Char → Except Fault (Piece × Nat)
  | '"' :: _ => .ok (.char '"', 1)
  | '\\' :: _ => .ok (.char '\\', 1)
  | '/' :: _ => .ok (.char '/', 1)
  | 'b' :: _ => .ok (.char '\x08', 1)
  | 'f' :: _ => .ok (.char '\x0c', 1)
  | 'n' :: _ => .ok (.char '\n', 1)
  | 'r' :: _ => .ok (.char '\r', 1)
  | 't' :: _ => .ok (.char '\t', 1)
  | 'u' :: rest => (hexQuad rest).map fun unit => (.ofUnit unit, 5)
  | [] => .error .truncated
  | _ :: _ => .error .malformed

/-- A string literal from behind its opening quote, and how many characters it takes. The first
argument counts the characters that belong to an escape already read. -/
def scanChars : Nat → List Char → Chars × Nat
  | _, [] => (⟨[], some .truncated⟩, 0)
  | escaped + 1, _ :: rest =>
    let (t, used) := scanChars escaped rest
    (t, used + 1)
  | 0, c :: rest =>
    if c = '"' then (⟨[], none⟩, 1)
    else if c = '\\' then
      match escape rest with
      | .ok (p, width) =>
        let (t, used) := scanChars width rest
        (t.cons p, used + 1)
      | .error f => (⟨[], some f⟩, 1)
    else if c.toNat < 0x20 then (⟨[], some .malformed⟩, 1)
    else
      let (t, used) := scanChars 0 rest
      (t.cons (.char c), used + 1)

/-! ### Words and numbers -/

/-- The unit that a word stands for, if the text goes on with the rest of the word. -/
def scanWord (unit : Token) (size : Nat) : List Char → List Char → Token × Nat
  | [], _ => (unit, size)
  | _ :: _, [] => (.broken (.word .truncated), 0)
  | w :: word, c :: text =>
    if c = w then scanWord unit size word text else (.broken (.word .malformed), 0)

/-- The break in a number that lacks a digit where the given text begins. -/
def missingDigit (text : List Char) : Token × Nat :=
  (.broken (.number (if text.isEmpty then .truncated else .malformed)), 0)

/-- The digits at the beginning of a text, and the rest. -/
def digits (text : List Char) : List Char × List Char :=
  text.span Char.isDigit

/-- The end of a number: its power of ten, if it has one. -/
def scanExponent (n : Number) (used : Nat) (text : List Char) : Token × Nat :=
  match text with
  | [] => (.number n, used)
  | c :: rest =>
    if c = 'e' || c = 'E' then
      let (negative, signed) :=
        match rest with
        | '-' :: more => (true, more)
        | '+' :: more => (false, more)
        | more => (false, more)
      match digits signed with
      | ([], more) => missingDigit more
      | (ds, _) =>
        let power : Int := Nat.ofDigitChars 10 ds 0
        (.number { n with exponent := some (if negative then -power else power) },
          used + 1 + (rest.length - signed.length) + ds.length)
    else (.number n, used)

/-- The middle of a number: its digits after the point, if it has one. -/
def scanFraction (n : Number) (used : Nat) (text : List Char) : Token × Nat :=
  match text with
  | '.' :: rest =>
    match digits rest with
    | ([], more) => missingDigit more
    | (ds, more) => scanExponent { n with fraction := ds } (used + 1 + ds.length) more
  | _ => scanExponent n used text

/-- A number from its digits on. A zero in front of other digits is refused. -/
def scanNumber (negative : Bool) (used : Nat) (text : List Char) : Token × Nat :=
  match digits text with
  | ([], more) => missingDigit more
  | ('0' :: _ :: _, _) => (.broken (.number .malformed), 0)
  | (ds, more) => scanFraction { negative, whole := ds } (used + ds.length) more

/-! ### All units -/

/-- The unit that begins with a character, and how many of the following characters it takes. -/
def scan (c : Char) (rest : List Char) : Token × Nat :=
  match c with
  | '\x7b' => (.objectStart, 0)
  | '\x7d' => (.objectEnd, 0)
  | '[' => (.arrayStart, 0)
  | ']' => (.arrayEnd, 0)
  | ':' => (.colon, 0)
  | ',' => (.comma, 0)
  | 'n' => scanWord .null 3 ['u', 'l', 'l'] rest
  | 't' => scanWord (.bool true) 3 ['r', 'u', 'e'] rest
  | 'f' => scanWord (.bool false) 4 ['a', 'l', 's', 'e'] rest
  | '"' =>
    let (t, used) := scanChars 0 rest
    (.string t, used)
  | '-' => scanNumber true 0 rest
  | c =>
    if c.isDigit then
      let (t, used) := scanNumber false 0 (c :: rest)
      (t, used - 1)
    else (.broken .foreign, 0)

/-- Whether nothing after a unit can be made out. -/
def Token.isLast : Token → Bool
  | .broken _ => true
  | .string t => t.stop.isSome
  | _ => false

/-- The units of a text after characters that belong to a unit already read. -/
def tokensFrom : Nat → List Char → List Token
  | _, [] => []
  | taken + 1, _ :: rest => tokensFrom taken rest
  | 0, c :: rest =>
    if isSpace c then tokensFrom 0 rest
    else
      let (t, used) := scan c rest
      if t.isLast then [t] else t :: tokensFrom used rest

/-- The units of a text, up to the first place where none can be made out. -/
def tokens (text : List Char) : List Token :=
  tokensFrom 0 text

end GpuLedger.Json
