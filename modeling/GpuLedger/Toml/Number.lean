import GpuLedger.Hexadecimal
import GpuLedger.Quantity
import GpuLedger.Toml.Basic

/-!
# Numbers and moments in TOML

Truth values, numbers and moments are words without quotes. `Toml.word?` tells them apart by
their form. Digits may be grouped by single underscores. Integers have to fit a signed word of 64
bits, fractions the range of binary floating-point numbers of that size.
-/

namespace GpuLedger.Toml

/-! ### Digits -/

/-- Digits of a base without the underscores between them, if there is a digit on both sides of
each underscore. -/
def ungroup? (isDigit : Char → Bool) : List Char → Option (List Char)
  | [] => none
  | [c] => if isDigit c then some [c] else none
  | c :: '_' :: rest => if isDigit c then (ungroup? isDigit rest).map (c :: ·) else none
  | c :: rest => if isDigit c then (ungroup? isDigit rest).map (c :: ·) else none

/-- The number of digits in a base. -/
def ofDigits (base : Nat) (digits : List Char) : Nat :=
  digits.foldl (fun value c => base * value + (Hexadecimal.digit? c).getD 0) 0

/-- A number in a base with its own mark. It has no sign. -/
def basedInteger? (base : Nat) (digits : List Char) : Option Toml := do
  let ds ← ungroup? (fun c => (Hexadecimal.digit? c).any (· < base)) digits
  if ofDigits base ds < Quantity.signedBound then return .integer (ofDigits base ds) else none

/-- Decimal digits without a zero in front of others. -/
def plainDigits? (digits : List Char) : Option (List Char) :=
  match ungroup? Char.isDigit digits with
  | some ('0' :: _ :: _) => none
  | ds => ds

/-- A sign, which may be left out, and what follows it. -/
def splitSign : List Char → Bool × List Char
  | '-' :: rest => (true, rest)
  | '+' :: rest => (false, rest)
  | text => (false, text)

/-- An integer in decimal digits. -/
def integer? (word : List Char) : Option Toml := do
  let (negative, digits) := splitSign word
  let n := ofDigits 10 (← plainDigits? digits)
  if negative then
    if n ≤ Quantity.signedBound then return .integer (-n) else none
  else
    if n < Quantity.signedBound then return .integer n else none

/-! ### Fractions -/

/-- Whether a positive number exceeds the range of floating-point numbers of 64 bits. The number
is given by its digits and a power of ten. -/
def exceedsRange (digits : List Char) (power : Int) : Bool :=
  let significant := digits.dropWhile (· = '0')
  let places : Int := significant.length + power
  if significant.isEmpty || places ≤ 308 then false
  else if 310 ≤ places then true
  else
    let n := ofDigits 10 significant
    let bound := Nat.pow 2 1024 - Nat.pow 2 970
    if 0 ≤ power then bound ≤ n * Nat.pow 10 power.toNat
    else bound * Nat.pow 10 (-power).toNat ≤ n

/-- A number with a fraction, a power of ten, or both. -/
def fraction? (word : List Char) : Option Toml := do
  let (negative, rest) := splitSign word
  if rest = ['i', 'n', 'f'] ∨ rest = ['n', 'a', 'n'] then return .fraction
  let whole := rest.takeWhile fun c => c ≠ '.' && c ≠ 'e' && c ≠ 'E'
  let ws ← plainDigits? whole
  let rest := rest.drop whole.length
  let (fs, rest) ← match rest with
    | '.' :: more =>
      let places := more.takeWhile fun c => c ≠ 'e' && c ≠ 'E'
      (ungroup? Char.isDigit places).map (·, more.drop places.length)
    | _ => some ([], rest)
  let power ← match rest with
    | [] => if fs.isEmpty then none else some 0
    | _ :: more => do
      let (down, digits) := splitSign more
      let n : Int := ofDigits 10 (← ungroup? Char.isDigit digits)
      some (if down then -n else n)
  if !negative && exceedsRange (ws ++ fs) (power - fs.length) then none else return .fraction

/-! ### Moments -/

/-- A number of exactly so many decimal digits. -/
def digitsOf? (width : Nat) (text : List Char) : Option Nat :=
  if text.length = width ∧ text.all Char.isDigit then some (ofDigits 10 text) else none

/-- The number of days of a month. -/
def daysOf (year month : Nat) : Nat :=
  if month = 2 then
    if year % 4 = 0 ∧ (year % 100 ≠ 0 ∨ year % 400 = 0) then 29 else 28
  else if month = 4 ∨ month = 6 ∨ month = 9 ∨ month = 11 then 30
  else 31

/-- Whether a word is a day, with year, month and day of the month. -/
def isDay (word : List Char) : Bool :=
  match digitsOf? 4 (word.take 4), word.drop 4 with
  | some year, '-' :: rest =>
    match digitsOf? 2 (rest.take 2), rest.drop 2 with
    | some month, '-' :: rest =>
      match digitsOf? 2 rest with
      | some day => 1 ≤ month && month ≤ 12 && 1 ≤ day && day ≤ daysOf year month
      | none => false
    | _, _ => false
  | _, _ => false

/-- The rest of a word after hours and minutes that do not exceed the given ones. -/
def afterMinutes? (hours minutes : Nat) (word : List Char) : Option (List Char) :=
  match digitsOf? 2 (word.take 2), word.drop 2 with
  | some h, ':' :: rest =>
    match digitsOf? 2 (rest.take 2) with
    | some m => if h ≤ hours ∧ m ≤ minutes then some (rest.drop 2) else none
    | none => none
  | _, _ => none

/-- The rest of a word after a time of day. -/
def afterTime? (word : List Char) : Option (List Char) :=
  match afterMinutes? 23 59 word with
  | some (':' :: rest) =>
    match digitsOf? 2 (rest.take 2), rest.drop 2 with
    | some s, '.' :: places =>
      let digits := places.takeWhile Char.isDigit
      if s ≤ 60 ∧ digits ≠ [] then some (places.drop digits.length) else none
    | some s, rest => if s ≤ 60 then some rest else none
    | none, _ => none
  | _ => none

/-- Whether the end of a word is the distance of a local time from the universal one. -/
def isOffset (word : List Char) : Bool :=
  match word with
  | [] => true
  | ['Z'] => true
  | ['z'] => true
  | sign :: rest => (sign = '+' || sign = '-') && afterMinutes? 23 59 rest = some []

/-- Whether a word is a time of day on its own or together with an offset. -/
def isTime (offset : Bool) (word : List Char) : Bool :=
  match afterTime? word with
  | some rest => if offset then isOffset rest else rest.isEmpty
  | none => false

/-- A day, a time, or both. -/
def moment? (word : List Char) : Option Toml :=
  let day := word.take 10
  match word.drop 10 with
  | [] => if isDay day || isTime false word then some .moment else none
  | c :: rest =>
    if (c = 'T' || c = 't' || c = ' ') && isDay day && isTime true rest then some .moment
    else if isTime false word then some .moment
    else none

/-! ### Words -/

/-- The value that a word without quotes stands for. -/
def word? (word : List Char) : Option Toml :=
  if word = ['t', 'r', 'u', 'e'] then some (.bool true)
  else if word = ['f', 'a', 'l', 's', 'e'] then some (.bool false)
  else
    match word with
    | '0' :: 'x' :: digits => basedInteger? 16 digits
    | '0' :: 'o' :: digits => basedInteger? 8 digits
    | '0' :: 'b' :: digits => basedInteger? 2 digits
    | _ => (integer? word).orElse fun _ => (fraction? word).orElse fun _ => moment? word

end GpuLedger.Toml
