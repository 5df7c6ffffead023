import GpuLedger.Json.Printer
import GpuLedger.Json.Token
import GpuLedger.Proofs.DeviceLists
import Mathlib.Data.List.TakeDrop

/-!
# The Units of a Text

A text is cut into its units from the left, and where a unit ends is seen from the characters
behind it: a number goes on as long as there are characters that could belong to one. So
what is said about a unit that was written is said with a rest behind it, and for numbers the rest
must not go on with the number (`Ends`).

How literals and numbers may be written is laid down by relations (`Chars.Written`,
`Number.Written`): a character of a literal stands as it is, behind a backslash, or as the four
digits of its code unit, and a power of ten may have either letter, a sign or none, and zeros in
front. Literals and numbers are **proper** if there is a text for them: a literal that is closed and
whose halves of characters are halves (`Chars.Proper`), a number that has digits (`Number.Proper`).
What the printer writes for them is one of their texts (`Chars.Proper.written_write`,
`Number.Proper.written_write`).

## Main results

* `tokens_cons` — the units of a text, by its first unit, however that is spelled;
* `tokens_space` — white space between units makes no difference;
* `tokens_mark`, `tokens_bool`, `tokens_null`, `tokens_number`, `tokens_string` — each unit is found
  again in every text that is written for it.
-/

namespace GpuLedger.Json

/-! ### Proper units -/

/-- A piece of a literal that can be written: any character, and a half if it is one. -/
def Piece.Proper : Piece → Prop
  | .char _ => True
  | .half unit => (Chars.isLeading unit || Chars.isTrailing unit) = true

/-- A literal that is closed. -/
structure Chars.Proper (t : Chars) : Prop where
  stop : t.stop = none
  pieces : ∀ p ∈ t.pieces, p.Proper

/-- A number as JSON has it: it has digits, and no zero in front of others. -/
structure Number.Proper (n : Number) : Prop where
  whole : ∀ c ∈ n.whole, c.isDigit = true
  whole_ne_nil : n.whole ≠ []
  leading : ∀ c more, n.whole ≠ '0' :: c :: more
  fraction : ∀ c ∈ n.fraction, c.isDigit = true

/-! ### How units are written -/

/-- The characters that may be written as a letter behind a backslash, each with its letter. -/
def letters : List (Char × Char) :=
  [('"', '"'), ('\\', '\\'), ('/', '/'), ('\x08', 'b'), ('\x0c', 'f'), ('\n', 'n'), ('\r', 'r'),
    ('\t', 't')]

/-- How a piece of a literal may be written. -/
inductive Piece.Written : Piece → List Char → Prop
  /-- A character as it is, unless it would end the literal, begin an escape, or is a control
  character. -/
  | plain {c : Char} : c ≠ '"' → c ≠ '\\' → 0x20 ≤ c.toNat → Written (.char c) [c]
  /-- A character by its letter. -/
  | letter {c l : Char} : (c, l) ∈ letters → Written (.char c) ['\\', l]
  /-- A code unit by four digits. -/
  | unit {unit : Nat} {digits : List Char} : digits.length = 4 →
      Hexadecimal.read? digits = some unit → Written (.ofUnit unit) ('\\' :: 'u' :: digits)

/-- How a literal may be written: one text for each of its pieces, between quotes. -/
def Chars.Written (t : Chars) (text : List Char) : Prop :=
  t.stop = none ∧ ∃ parts, List.Forall₂ Piece.Written t.pieces parts ∧
    text = '"' :: (parts.flatten ++ ['"'])

/-- A row of digits, at least one. -/
def IsDigits (ds : List Char) : Prop :=
  ds ≠ [] ∧ ∀ c ∈ ds, c.isDigit = true

/-- The signs that may stand in front of the digits of a power of ten, and whether they make it
negative. -/
def signs : List (List Char × Bool) :=
  [([], false), (['+'], false), (['-'], true)]

/-- How the power of ten of a number may be written. -/
inductive Number.PowerWritten : Option Int → List Char → Prop
  | absent : PowerWritten none []
  | present {e : Char} {sign : List Char} {negative : Bool} {ds : List Char} : e = 'e' ∨ e = 'E' →
      (sign, negative) ∈ signs → IsDigits ds →
      PowerWritten
        (some (if negative then -(Nat.ofDigitChars 10 ds 0 : Int) else Nat.ofDigitChars 10 ds 0))
        (e :: (sign ++ ds))

/-- The part of a number behind its point, with the point. -/
def Number.writeFraction (fraction : List Char) : List Char :=
  if fraction.isEmpty then [] else '.' :: fraction

/-- How a number may be written. Only the power of ten leaves a choice. -/
def Number.Written (n : Number) (text : List Char) : Prop :=
  n.Proper ∧ ∃ power, Number.PowerWritten n.exponent power ∧
    text = (if n.negative then ['-'] else []) ++
      (n.whole ++ (Number.writeFraction n.fraction ++ power))

/-- A character with which a number may go on. -/
def continuesNumber (c : Char) : Bool :=
  c.isDigit || c = '.' || c = 'e' || c = 'E'

/-- A text with which no number goes on. -/
def Ends (text : List Char) : Prop :=
  ∀ c ∈ text.head?, continuesNumber c = false

/-- The end of a text ends a number. -/
theorem ends_nil : Ends [] := fun _ hc => absurd hc (by simp)

/-- A character that cannot be part of a number ends it. -/
theorem ends_cons {c : Char} (h : continuesNumber c = false) (text : List Char) :
    Ends (c :: text) := by
  intro d hd
  obtain rfl : c = d := by simpa using hd
  exact h

/-! ### Cutting off the first unit -/

/-- Characters that belong to the last unit are passed over. -/
theorem tokensFrom_append {taken : Nat} {cs : List Char} (h : cs.length = taken)
    (rest : List Char) : tokensFrom taken (cs ++ rest) = tokens rest := by
  induction cs generalizing taken with
  | nil =>
      subst h
      rfl
  | cons c more ih =>
      subst h
      exact ih rfl

/-- **The first unit** of a text, and the units of what is behind it. -/
theorem tokens_cons {t : Token} {c : Char} {s rest : List Char} (hspace : isSpace c = false)
    (hscan : scan c (s ++ rest) = (t, s.length)) (hlast : t.isLast = false) :
    tokens (c :: (s ++ rest)) = t :: tokens rest := by
  rw [tokens, tokensFrom]
  simp only [hspace, hscan, hlast, Bool.false_eq_true, if_false]
  rw [tokensFrom_append rfl]

/-- **White space** in front of a text makes no difference. -/
theorem tokens_space {c : Char} (h : isSpace c = true) (rest : List Char) :
    tokens (c :: rest) = tokens rest := by
  rw [tokens, tokensFrom, if_pos h]
  rfl

/-- Blanks are no units. -/
theorem tokens_spaces {cs : List Char} (h : ∀ c ∈ cs, isSpace c = true) (rest : List Char) :
    tokens (cs ++ rest) = tokens rest := by
  induction cs with
  | nil => rfl
  | cons c more ih =>
      rw [List.cons_append, tokens_space (h c List.mem_cons_self)]
      exact ih fun d hd => h d (List.mem_cons_of_mem _ hd)

/-! ### String literals -/

/-- Every character takes a byte at least. -/
theorem length_le_byteCount (text : List Char) : text.length ≤ byteCount text := by
  induction text with
  | nil => exact Nat.le_refl _
  | cons c more ih =>
      have hsize := c.utf8Size_pos
      have hcount : byteCount (c :: more) = c.utf8Size + byteCount more := rfl
      rw [List.length_cons, hcount]
      omega

/-- Four digits are read as the number that they stand for. -/
theorem hexQuad_append {unit : Nat} {digits : List Char} (hlength : digits.length = 4)
    (hread : Hexadecimal.read? digits = some unit) (rest : List Char) :
    hexQuad (digits ++ rest) = .ok unit := by
  have hquad : (digits ++ rest).take 4 = digits := by
    rw [List.take_append_of_le_length (Nat.le_of_eq hlength.symm),
      List.take_of_length_le (Nat.le_of_eq hlength)]
  have hcount := length_le_byteCount digits
  have hbytes : ¬ byteCount digits < 4 := by omega
  simp only [hexQuad, hquad, hbytes, hlength, Nat.lt_irrefl, if_false, hread, Option.elim_some]

/-- Characters that belong to an escape are passed over and counted. -/
theorem scanChars_append {escaped : Nat} {cs : List Char} (h : cs.length = escaped)
    (rest : List Char) :
    scanChars escaped (cs ++ rest)
      = ((scanChars 0 rest).1, (scanChars 0 rest).2 + escaped) := by
  induction cs generalizing escaped with
  | nil =>
      subst h
      rfl
  | cons c more ih =>
      subst h
      rw [List.cons_append, List.length_cons, scanChars]
      simp only [ih rfl, Nat.add_assoc]

/-- An escape is read as the piece that it stands for. -/
theorem scanChars_escape {p : Piece} {s rest : List Char}
    (h : escape (s ++ rest) = .ok (p, s.length)) :
    scanChars 0 ('\\' :: s ++ rest)
      = ((scanChars 0 rest).1.cons p, (scanChars 0 rest).2 + (s.length + 1)) := by
  have hquote : ('\\' : Char) ≠ '"' := by decide
  rw [List.cons_append, scanChars, if_neg hquote, if_pos rfl]
  simp only [h, scanChars_append rfl, Nat.add_assoc]

/-- **A piece** of a literal is found again, however it is written. -/
theorem Piece.Written.scanChars {p : Piece} {s : List Char} (h : p.Written s) (rest : List Char) :
    scanChars 0 (s ++ rest) = ((scanChars 0 rest).1.cons p, (scanChars 0 rest).2 + s.length) := by
  cases h with
  | plain hquote hslash hcontrol =>
      rw [List.singleton_append, Json.scanChars, if_neg hquote, if_neg hslash,
        if_neg (Nat.not_lt.mpr hcontrol)]
      rfl
  | @letter c l hletter =>
      refine scanChars_escape (s := [l]) ?_
      simp only [letters, List.mem_cons, Prod.mk.injEq, List.not_mem_nil, or_false] at hletter
      rcases hletter with h | h | h | h | h | h | h | h <;>
        · obtain ⟨rfl, rfl⟩ := h
          rfl
  | @unit unit digits hlength hread =>
      refine scanChars_escape (s := 'u' :: digits) ?_
      rw [List.cons_append, escape, hexQuad_append hlength hread, List.length_cons, hlength]
      rfl

/-- **A literal** is found again behind its opening quote. -/
theorem scanChars_flatten {ps : List Piece} {parts : List (List Char)}
    (h : List.Forall₂ Piece.Written ps parts) (rest : List Char) :
    scanChars 0 (parts.flatten ++ '"' :: rest) = (⟨ps, none⟩, parts.flatten.length + 1) := by
  induction h with
  | nil => rfl
  | cons hpart _ ih =>
      rw [List.flatten_cons, List.append_assoc, hpart.scanChars, ih, List.length_append]
      simp only [Chars.cons, Prod.mk.injEq, true_and]
      omega

/-! ### Literals as the printer writes them -/

/-- A unit that is half of a character, or a character of its own, has four digits. -/
theorem Piece.written_hex {unit : Nat} {p : Piece} (h : unit < 0x10000)
    (hp : Piece.ofUnit unit = p) : p.Written (['\\', 'u'] ++ Hexadecimal.write 4 unit) :=
  hp ▸ .unit (Hexadecimal.length_write 4 unit) (Hexadecimal.read?_write h)

/-- A proper piece is written in the way in which it is printed. -/
theorem Piece.Proper.written_write {p : Piece} (hp : p.Proper) : p.Written p.write := by
  cases p with
  | half unit =>
      refine Piece.written_hex ?_ (if_pos hp)
      simp only [Piece.Proper, Chars.isLeading, Chars.isTrailing, Bool.or_eq_true,
        Bool.and_eq_true, decide_eq_true_eq] at hp
      omega
  | char c =>
      rw [Piece.write]
      unfold escapeChar
      split
      · exact .letter (by decide)
      · exact .letter (by decide)
      · exact .letter (by decide)
      · exact .letter (by decide)
      · exact .letter (by decide)
      · exact .letter (by decide)
      · exact .letter (by decide)
      · next hquote hslash _ _ _ _ _ =>
        by_cases hcontrol : c.toNat < 0x20
        · rw [if_pos hcontrol]
          -- Read by its number a control character is itself: the numbers of halves are far above.
          refine Piece.written_hex (by omega) ?_
          have hhalf : ¬ (Chars.isLeading c.toNat || Chars.isTrailing c.toNat) = true := by
            simp only [Chars.isLeading, Chars.isTrailing, Bool.or_eq_true, Bool.and_eq_true,
              decide_eq_true_eq]
            omega
          rw [Piece.ofUnit, if_neg hhalf, Char.ofNat_toNat]
        · rw [if_neg hcontrol]
          exact .plain hquote hslash (Nat.not_lt.mp hcontrol)

/-- **The printed literal** is one of its texts. -/
theorem Chars.Proper.written_write {t : Chars} (ht : t.Proper) : t.Written t.write := by
  refine ⟨ht.stop, t.pieces.map Piece.write, ?_, ?_⟩
  · refine List.forall₂_map_right_iff.mpr (List.forall₂_same.mpr fun p hp => ?_)
    exact (ht.pieces p hp).written_write
  · rw [Chars.write, ht.stop, ← List.flatMap_def]
    rfl

/-- What is written is proper. -/
theorem Piece.Written.proper {p : Piece} {s : List Char} (h : p.Written s) : p.Proper := by
  cases h with
  | plain => trivial
  | letter => trivial
  | unit =>
      rw [Piece.ofUnit]
      split
      · assumption
      · trivial

/-- Pieces that are written somehow are proper. -/
theorem Piece.proper_of_written {ps : List Piece} {parts : List (List Char)}
    (h : List.Forall₂ Piece.Written ps parts) : ∀ p ∈ ps, p.Proper := by
  induction h with
  | nil => exact nofun
  | cons hpart _ ih => exact List.forall_mem_cons.mpr ⟨hpart.proper, ih⟩

/-- Characters that are written somehow are proper. -/
theorem Chars.Written.proper {t : Chars} {text : List Char} (h : t.Written text) : t.Proper := by
  obtain ⟨hstop, parts, hparts, -⟩ := h
  exact ⟨hstop, Piece.proper_of_written hparts⟩

/-! ### Numbers -/

/-- Digits are cut off from a rest that begins with none. -/
theorem digits_append {ds rest : List Char} (hds : ∀ c ∈ ds, c.isDigit = true)
    (hrest : ∀ c ∈ rest.head?, c.isDigit = false) : digits (ds ++ rest) = (ds, rest) := by
  rw [digits, List.span_eq_takeWhile_dropWhile, List.takeWhile_append_of_pos hds,
    List.dropWhile_append_of_pos hds]
  cases rest with
  | nil => rw [List.takeWhile_nil, List.dropWhile_nil, List.append_nil]
  | cons c more =>
      have hc : ¬ c.isDigit = true := by simp [hrest c rfl]
      rw [List.takeWhile_cons_of_neg hc, List.dropWhile_cons_of_neg hc, List.append_nil]

/-- A rest that ends a number begins with no digit. -/
theorem Ends.isDigit {rest : List Char} (h : Ends rest) : ∀ c ∈ rest.head?, c.isDigit = false :=
  fun c hc => by
    have hcontinues := h c hc
    simp only [continuesNumber, Bool.or_eq_false_iff] at hcontinues
    exact hcontinues.1.1.1

/-- A digit is no sign. -/
theorem ne_sign_of_isDigit {d : Char} (hd : d.isDigit = true) : d ≠ '-' ∧ d ≠ '+' := by
  refine ⟨?_, ?_⟩ <;> rintro rfl <;> exact absurd hd (by decide)

/-- The power of ten is found again. -/
theorem Number.PowerWritten.scanExponent {n : Number} (hn : n.exponent = none) {e : Option Int}
    {power : List Char} (h : PowerWritten e power) (used : Nat) {rest : List Char}
    (hrest : Ends rest) :
    scanExponent n used (power ++ rest)
      = (.number { n with exponent := e }, used + power.length) := by
  cases h with
  | absent =>
      have hsame : { n with exponent := none } = n := by rw [← hn]
      rw [hsame]
      cases rest with
      | nil => rfl
      | cons c more =>
          have hc := hrest c rfl
          simp only [continuesNumber, Bool.or_eq_false_iff, decide_eq_false_iff_not] at hc
          simp [Json.scanExponent, hc.1.2, hc.2]
  | @present e sign negative ds he hsign hds =>
      obtain ⟨d, more, rfl⟩ := List.exists_cons_of_ne_nil hds.1
      have hd := ne_sign_of_isDigit (hds.2 d List.mem_cons_self)
      have hdigits : digits (d :: (more ++ rest)) = (d :: more, rest) :=
        digits_append hds.2 hrest.isDigit
      have hmark : (decide (e = 'e') || decide (e = 'E')) = true := by simpa using he
      simp only [signs, List.mem_cons, Prod.mk.injEq, List.not_mem_nil, or_false] at hsign
      rcases hsign with ⟨rfl, rfl⟩ | ⟨rfl, rfl⟩ | ⟨rfl, rfl⟩
      · simp [Json.scanExponent, hmark, hd.1, hd.2, hdigits]
        omega
      · simp [Json.scanExponent, hmark, hdigits]
        omega
      · simp [Json.scanExponent, hmark, hdigits]
        omega

/-- The part behind the point is found again. -/
theorem scanFraction_write {n : Number} (hn : n.fraction = []) {fraction : List Char}
    (hfraction : ∀ c ∈ fraction, c.isDigit = true) (used : Nat) {rest : List Char}
    (hdigit : ∀ c ∈ rest.head?, c.isDigit = false) (hpoint : ∀ c ∈ rest.head?, c ≠ '.') :
    scanFraction n used (Number.writeFraction fraction ++ rest)
      = scanExponent { n with fraction } (used + (Number.writeFraction fraction).length) rest := by
  cases fraction with
  | nil =>
      have hsame : { n with fraction := [] } = n := by rw [← hn]
      rw [hsame]
      cases rest with
      | nil => rfl
      | cons c more =>
          have hc : c ≠ '.' := hpoint c rfl
          simp [Number.writeFraction, scanFraction, hc]
  | cons d ds =>
      have hdigits : digits (d :: (ds ++ rest)) = (d :: ds, rest) :=
        digits_append hfraction hdigit
      simp only [Number.writeFraction, List.isEmpty_cons, Bool.false_eq_true, if_false,
        List.cons_append, scanFraction, hdigits, List.length_cons]
      congr 1
      omega

/-- Behind the digits after the point comes no digit and no point. -/
theorem Number.PowerWritten.head? {e : Option Int} {power : List Char} (h : PowerWritten e power)
    {rest : List Char} (hrest : Ends rest) :
    ∀ c ∈ (power ++ rest).head?, c.isDigit = false ∧ c ≠ '.' := by
  intro c hc
  cases h with
  | absent =>
      have hcontinues := hrest c hc
      simp only [continuesNumber, Bool.or_eq_false_iff, decide_eq_false_iff_not] at hcontinues
      exact hcontinues.1.1
  | @present e sign negative ds he =>
      obtain rfl : e = c := by simpa using hc
      rcases he with rfl | rfl <;> decide

/-- Behind the digits in front of the point comes no digit. -/
theorem head?_writeFraction (fraction : List Char) {rest : List Char}
    (hrest : ∀ c ∈ rest.head?, c.isDigit = false) :
    ∀ c ∈ (Number.writeFraction fraction ++ rest).head?, c.isDigit = false := by
  intro c hc
  cases fraction with
  | nil => exact hrest c hc
  | cons d ds =>
      obtain rfl : '.' = c := by simpa [Number.writeFraction] using hc
      decide

/-- **A number** is found again from its digits on. -/
theorem scanNumber_append {n : Number} (hn : n.Proper) {power : List Char}
    (hpower : Number.PowerWritten n.exponent power) {rest : List Char} (hrest : Ends rest) :
    scanNumber n.negative 0 (n.whole ++ (Number.writeFraction n.fraction ++ (power ++ rest)))
      = (.number n, (n.whole ++ (Number.writeFraction n.fraction ++ power)).length) := by
  have hhead := hpower.head? hrest
  have hdigits := digits_append hn.whole
    (head?_writeFraction n.fraction fun c hc => (hhead c hc).1)
  have hleading := hn.leading
  obtain ⟨d, ds, hds⟩ := List.exists_cons_of_ne_nil hn.whole_ne_nil
  rw [scanNumber, hdigits]
  split
  · next heq => simp [hds] at heq
  · next heq => exact absurd (Prod.mk.inj heq).1 (hleading _ _)
  · next heq =>
    obtain ⟨rfl, rfl⟩ := Prod.mk.inj heq
    rw [scanFraction_write rfl hn.fraction _ (fun c hc => (hhead c hc).1)
      (fun c hc => (hhead c hc).2), hpower.scanExponent rfl _ hrest]
    simp only [List.length_append, Prod.mk.injEq, true_and]
    omega

/-! ### Numbers as the printer writes them -/

namespace Number

/-- The power of ten of a number. -/
def writePower : Option Int → List Char
  | none => []
  | some e => 'e' :: (if e < 0 then ['-'] else []) ++ Decimal.write e.natAbs

/-- A number is printed as its sign, its whole part, its fraction and its power. -/
theorem write_eq (n : Number) :
    n.write = (if n.negative then ['-'] else []) ++
      (n.whole ++ (writeFraction n.fraction ++ writePower n.exponent)) := by
  rw [write, writeFraction, List.append_assoc, List.append_assoc]
  cases n.exponent <;> rfl

/-- A power of ten is written in the way in which it is printed. -/
theorem powerWritten_writePower (e : Option Int) : PowerWritten e (writePower e) := by
  cases e with
  | none => exact .absent
  | some e =>
      have hdigits : IsDigits (Decimal.write e.natAbs) :=
        ⟨Nat.toDigits_ne_nil, fun _ hc => Decimal.isDigit_of_mem_write hc⟩
      have hvalue : Nat.ofDigitChars 10 (Decimal.write e.natAbs) 0 = e.natAbs :=
        Nat.ofDigitChars_ten_toDigits
      by_cases hneg : e < 0
      · have h := PowerWritten.present (e := 'e') (.inl rfl)
          (by decide : (['-'], true) ∈ signs) hdigits
        have he : -(e.natAbs : Int) = e := by omega
        rw [hvalue, if_pos rfl, he] at h
        rw [writePower, if_pos hneg]
        exact h
      · have h := PowerWritten.present (e := 'e') (.inl rfl)
          (by decide : ([], false) ∈ signs) hdigits
        have he : (e.natAbs : Int) = e := by omega
        rw [hvalue, if_neg Bool.false_ne_true, he] at h
        rw [writePower, if_neg hneg]
        exact h

/-- **The printed number** is one of its texts. -/
theorem Proper.written_write {n : Number} (hn : n.Proper) : n.Written n.write :=
  ⟨hn, writePower n.exponent, powerWritten_writePower _, n.write_eq⟩

end Number

/-! ### All units -/

/-- A character that begins a number begins nothing else. -/
theorem scan_of_isDigit {c : Char} (h : c.isDigit = true) (rest : List Char) :
    scan c rest = ((scanNumber false 0 (c :: rest)).1, (scanNumber false 0 (c :: rest)).2 - 1) := by
  unfold scan
  split
  case h_12 => rw [if_pos h]
  all_goals exact absurd h (by decide)

/-- A digit is no blank. -/
theorem isSpace_of_isDigit {c : Char} (h : c.isDigit = true) : isSpace c = false := by
  by_contra hspace
  simp only [isSpace, Bool.not_eq_false, Bool.or_eq_true, decide_eq_true_eq] at hspace
  rcases hspace with ((rfl | rfl) | rfl) | rfl <;> exact absurd h (by decide)

/-- **A number** is found again in whatever is written for it. -/
theorem tokens_number {n : Number} {text : List Char} (h : n.Written text) {rest : List Char}
    (hrest : Ends rest) : tokens (text ++ rest) = .number n :: tokens rest := by
  obtain ⟨hn, power, hpower, rfl⟩ := h
  have hscan := scanNumber_append hn hpower hrest
  rw [← List.append_assoc (Number.writeFraction n.fraction), ← List.append_assoc] at hscan
  cases hneg : n.negative with
  | true =>
      rw [hneg] at hscan
      exact tokens_cons (c := '-') rfl hscan rfl
  | false =>
      obtain ⟨d, ds, hds⟩ := List.exists_cons_of_ne_nil hn.whole_ne_nil
      have hd : d.isDigit = true := hn.whole d (hds ▸ List.mem_cons_self)
      rw [hneg, hds, List.cons_append, List.cons_append] at hscan
      have hfirst := scan_of_isDigit hd
        (ds ++ (Number.writeFraction n.fraction ++ power) ++ rest)
      rw [hscan] at hfirst
      rw [hds]
      exact tokens_cons (c := d) (isSpace_of_isDigit hd) hfirst rfl

/-- **A literal** is found again in whatever is written for it. -/
theorem tokens_string {t : Chars} {text : List Char} (h : t.Written text) (rest : List Char) :
    tokens (text ++ rest) = .string t :: tokens rest := by
  obtain ⟨ps, stop⟩ := t
  obtain ⟨rfl, parts, hparts, rfl⟩ := h
  have hscan : scan '"' (parts.flatten ++ ['"'] ++ rest)
      = (.string ⟨ps, none⟩, (parts.flatten ++ ['"']).length) := by
    rw [scan, List.append_assoc, List.singleton_append, scanChars_flatten hparts,
      List.length_append]
    rfl
  exact tokens_cons (c := '"') rfl hscan rfl

/-- The unit that a character is for itself. -/
def mark? : Char → Option Token
  | '\x7b' => some .objectStart
  | '\x7d' => some .objectEnd
  | '[' => some .arrayStart
  | ']' => some .arrayEnd
  | ':' => some .colon
  | ',' => some .comma
  | _ => none

/-- **A bracket or separator** is a unit. -/
theorem tokens_mark {c : Char} {t : Token} (h : mark? c = some t) (rest : List Char) :
    tokens (c :: rest) = t :: tokens rest := by
  unfold mark? at h
  split at h
  case h_7 => cases h
  all_goals
    obtain rfl := Option.some.inj h
    exact tokens_cons (s := []) rfl rfl rfl

/-- **A word** is a unit. -/
theorem tokens_bool (b : Bool) (rest : List Char) :
    tokens (writeBool b ++ rest) = .bool b :: tokens rest := by
  cases b with
  | true => exact tokens_cons (s := ['r', 'u', 'e']) rfl rfl rfl
  | false => exact tokens_cons (s := ['a', 'l', 's', 'e']) rfl rfl rfl

/-- The word for nothing is one unit. -/
theorem tokens_null (rest : List Char) :
    tokens (['n', 'u', 'l', 'l'] ++ rest) = .null :: tokens rest :=
  tokens_cons (s := ['u', 'l', 'l']) rfl rfl rfl

end GpuLedger.Json
