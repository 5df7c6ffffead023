import GpuLedger.Text.Invisible

/-!
# Texts

What is done to a text wherever it comes from. Blanks are cut off at its ends (`Text.trim`), it is
cut into pieces at each occurrence of a separator (`Text.pieces`), and it is put between double
quotes where it stands inside a message (`Text.quote`).

## Conventions

The blanks are the characters with the Unicode property `White_Space`. There is always one piece
more than there are separators, so the pieces of an empty text are one empty piece. Inside quotes
the double quote, the backslash and the common control characters are written with a backslash and
one letter, and every character that would not be shown as it is by its code point in hexadecimal
digits between braces.
-/

namespace GpuLedger.Text

/-! ### Blanks -/

/-- The first and the last code point of each run of blank characters. -/
def blankRanges : List (Nat × Nat) :=
  [(0x9, 0xD), (0x20, 0x20), (0x85, 0x85), (0xA0, 0xA0), (0x1680, 0x1680), (0x2000, 0x200A),
   (0x2028, 0x2029), (0x202F, 0x202F), (0x205F, 0x205F), (0x3000, 0x3000)]

/-- Whether a code point lies in one of the ranges. -/
def inRanges (ranges : List (Nat × Nat)) (code : Nat) : Bool :=
  ranges.any fun r => r.1 ≤ code && code ≤ r.2

/-- Whether a character is blank. -/
def isBlank (c : Char) : Bool :=
  inRanges blankRanges c.toNat

/-- The text without the blanks at its beginning and at its end. -/
def trim (text : List Char) : List Char :=
  ((text.dropWhile isBlank).reverse.dropWhile isBlank).reverse

/-! ### Pieces -/

/-- The pieces of a text between its separators. -/
def pieces (separator : Char) : List Char → List (List Char)
  | [] => [[]]
  | c :: rest =>
    if c = separator then [] :: pieces separator rest
    else
      match pieces separator rest with
      | [] => [[c]]
      | piece :: more => (c :: piece) :: more

/-- There is at least one piece. -/
theorem pieces_ne_nil (separator : Char) (text : List Char) : pieces separator text ≠ [] := by
  cases text with
  | nil => simp [pieces]
  | cons c rest =>
    unfold pieces
    split
    · simp
    · split <;> simp

/-- The pieces with the separator between them are the text again. -/
theorem intercalate_pieces (separator : Char) (text : List Char) :
    [separator].intercalate (pieces separator text) = text := by
  induction text with
  | nil => rfl
  | cons c rest ih =>
    obtain ⟨piece, more, hp⟩ := List.exists_cons_of_ne_nil (pieces_ne_nil separator rest)
    unfold pieces
    split
    · next h =>
      rw [hp] at ih ⊢
      rw [List.intercalate_cons_cons, ih, h]
      rfl
    · rw [hp] at ih ⊢
      cases more with
      | nil => simpa using ih
      | cons next more =>
        rw [List.intercalate_cons_cons] at ih ⊢
        rw [List.cons_append, List.cons_append, ih]

/-! ### Quotes -/

/-- Whether a character is shown as it is inside a quoted text. -/
def isVisible (c : Char) : Bool :=
  !inRanges invisibleRanges c.toNat

/-- How a character is written inside a quoted text. -/
def quoteChar (c : Char) : List Char :=
  match c with
  | '\x00' => ['\\', '0']
  | '\t' => ['\\', 't']
  | '\n' => ['\\', 'n']
  | '\r' => ['\\', 'r']
  | '\\' => ['\\', '\\']
  | '"' => ['\\', '"']
  | _ =>
    if isVisible c then [c]
    else ['\\', 'u', '\x7b'] ++ Nat.toDigits 16 c.toNat ++ ['\x7d']

/-- A text between double quotes. -/
def quote (text : List Char) : List Char :=
  '"' :: (text.flatMap quoteChar ++ ['"'])

end GpuLedger.Text
