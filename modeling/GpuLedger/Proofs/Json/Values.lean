import GpuLedger.Json.Record
import GpuLedger.Proofs.Json.Layouts
import GpuLedger.Snapshot.Workload
import Mathlib.Algebra.Ring.Nat
import Mathlib.Data.List.Duplicate
import Mathlib.Data.List.Forall2

/-!
# Values Read Back

What is written for a value is read as that value. This module says so for the kinds of values
that snapshots are made of, on the level of documents: the layout is not seen any more
(`GpuLedger.Proofs.Json.Layouts`). Texts, numbers and identifiers are read as they were written;
lists and maps are, as soon as what is in them is; and so are records.

A record goes through the members of an object in whichever order they come and keeps the values of
its fields (`Record.entries`). Where it can be content with every member it ends in one of two ways
(`Record.scanMembers_cases`): it has kept the values of distinct fields, or it has met a field for
the second time. Written with a member for each field in order, each of which the field **takes**
(`FieldRule.Takes`), it ends in the first, and every field finds its own value
(`Record.exists_contents`).

## Main results

* `Chars.StandsFor.readChars_eq` — a literal is read as the text that it stands for;
* `readString_ofString`, `readNat_ofNat`, `readList_ofList` — texts, numbers and lists;
* `SortedMap.ofJson_toJson`, `Uuid.ofJson_toJson` — maps and identifiers;
* `Record.scanMembers_cases` — how going through members can end;
* `Record.exists_contents` — the contents of a record.
-/

namespace GpuLedger

namespace Json

/-! ### Documents that are written -/

/-- The literal of a text is proper. -/
theorem Chars.proper_ofString (s : String) : (Chars.ofString s).Proper where
  stop := rfl
  pieces p hp := by
    obtain ⟨c, -, rfl⟩ := List.mem_map.mp hp
    trivial

/-- A number above zero does not begin with a zero. -/
theorem exists_write_of_pos {n : Nat} (h : 0 < n) :
    ∃ c more, Decimal.write n = c :: more ∧ c ≠ '0' := by
  induction n using Nat.strongRecOn with
  | _ n ih =>
      by_cases hn : n < 10
      · have hdigit : ∀ d : Fin 10, 0 < d.1 → Nat.digitChar d.1 ≠ '0' := by decide
        exact ⟨_, [], Nat.toDigits_of_lt_base hn, hdigit ⟨n, hn⟩ h⟩
      · obtain ⟨c, more, hmore, hc⟩ := ih (n / 10) (by omega) (by omega)
        refine ⟨c, more ++ [Nat.digitChar (n % 10)], ?_, hc⟩
        rw [Decimal.write, Nat.toDigits_of_base_le (by decide) (by omega)]
        exact congrArg (· ++ [Nat.digitChar (n % 10)]) hmore

/-- The numeral of a natural number is proper. -/
theorem Number.proper_ofNat (n : Nat) : (Number.ofNat n).Proper where
  whole _ hc := Decimal.isDigit_of_mem_write hc
  whole_ne_nil := Nat.toDigits_ne_nil
  leading c more heq := by
    have heq : Decimal.write n = '0' :: c :: more := heq
    rcases Nat.eq_zero_or_pos n with rfl | hn
    · exact absurd heq (by simp [Decimal.write])
    · obtain ⟨d, more', hwrite, hd⟩ := exists_write_of_pos hn
      rw [hwrite] at heq
      exact hd (List.cons.inj heq).1
  fraction _ hc := absurd hc List.not_mem_nil

/-- A text is a proper document. -/
theorem proper_ofString (s : String) : (ofString s).Proper := .string (Chars.proper_ofString s)

/-- A natural number is a proper document. -/
theorem proper_ofNat (n : Nat) : (ofNat n).Proper := .number (Number.proper_ofNat n)

/-- An array of proper documents is one. -/
theorem proper_ofList {items : List Json} (h : ∀ v ∈ items, v.Proper) : (ofList items).Proper :=
  .array h

/-- An object of proper documents is one. -/
theorem proper_ofMembers {members : List (String × Json)} (h : ∀ m ∈ members, m.2.Proper) :
    (ofMembers members).Proper := by
  refine .object (fun m hm => ?_) (fun m hm => ?_)
  · obtain ⟨e, -, rfl⟩ := List.mem_map.mp hm
    exact Chars.proper_ofString e.1
  · obtain ⟨e, he, rfl⟩ := List.mem_map.mp hm
    exact h e he

/-! ### Documents that are passed over -/

/-- Items without a fault have no first one. -/
theorem firstFaultItems_eq_none {items : List Json} (h : ∀ v ∈ items, v.firstFault = none) :
    firstFaultItems items = none := by
  induction items with
  | nil => rfl
  | cons v more ih =>
      obtain ⟨hv, hmore⟩ := List.forall_mem_cons.mp h
      rw [firstFaultItems, hv, Option.none_or, ih hmore]

/-- Members without a fault have no first one. -/
theorem firstFaultMembers_eq_none {members : List (Chars × Json)}
    (h : ∀ m ∈ members, m.2.firstFault = none) : firstFaultMembers members = none := by
  induction members with
  | nil => rfl
  | cons m more ih =>
      obtain ⟨hm, hmore⟩ := List.forall_mem_cons.mp h
      rw [firstFaultMembers, hm, Option.none_or, ih hmore]

/-- **A proper document** has no fault for a reader that passes over it. -/
theorem Proper.firstFault_eq_none {j : Json} (hj : j.Proper) : j.firstFault = none := by
  induction hj with
  | null => rfl
  | bool => rfl
  | number => rfl
  | string ht => exact ht.stop
  | array _ ih => rw [firstFault, firstFaultItems_eq_none ih]; rfl
  | object _ _ ih => rw [firstFault, firstFaultMembers_eq_none ih]; rfl

/-! ### Texts and numbers -/

/-- The characters that pieces of a literal stand for. Halves of characters come in pairs. -/
inductive Piece.StandFor : List Piece → List Char → Prop
  | nil : StandFor [] []
  | char {c : Char} {ps : List Piece} {cs : List Char} : StandFor ps cs →
      StandFor (.char c :: ps) (c :: cs)
  | pair {leading trailing : Nat} {ps : List Piece} {cs : List Char} :
      Chars.isLeading leading = true → Chars.isTrailing trailing = true → StandFor ps cs →
      StandFor (.half leading :: .half trailing :: ps) (Chars.join leading trailing :: cs)

/-- The text that a literal stands for, if it is closed and no half of a character is left over. -/
def Chars.StandsFor (t : Chars) (s : String) : Prop :=
  t.stop = none ∧ Piece.StandFor t.pieces s.toList

/-- The literal of a text stands for it. -/
theorem Chars.standsFor_ofString (s : String) : (ofString s).StandsFor s := by
  refine ⟨rfl, ?_⟩
  change Piece.StandFor (s.toList.map .char) s.toList
  induction s.toList with
  | nil => exact .nil
  | cons c more ih => exact .char ih

/-- Pieces read as the characters they stand for. -/
theorem Piece.StandFor.readPieces_eq {ps : List Piece} {cs : List Char} (h : StandFor ps cs) :
    Chars.readPieces none ps = .ok cs := by
  induction h with
  | nil => rfl
  | char _ ih => rw [Chars.readPieces, ih]; rfl
  | pair hleading htrailing _ ih =>
      rw [Chars.readPieces, if_pos (by rw [hleading, htrailing]; rfl), ih]
      rfl

/-- **A literal** is read as the text that it stands for. -/
theorem Chars.StandsFor.readChars_eq {t : Chars} {s : String} (h : t.StandsFor s) :
    readChars t = .ok s := by
  obtain ⟨hstop, hpieces⟩ := h
  rw [readChars, Chars.read, hstop, hpieces.readPieces_eq]
  exact congrArg Except.ok String.ofList_toList

/-- The literal of a text is read as the text. -/
theorem readChars_ofString (s : String) : readChars (.ofString s) = .ok s :=
  (Chars.standsFor_ofString s).readChars_eq

/-- A text reads back. -/
theorem readString_ofString (s : String) : readString (ofString s) = .ok s :=
  readChars_ofString s

/-- A natural number within the bound is read as it is. -/
theorem readNat_ofNat {bound n : Nat} (h : n ≤ bound) : readNat bound (ofNat n) = .ok n := by
  have hvalue : Nat.ofDigitChars 10 (Decimal.write n) 0 = n := Nat.ofDigitChars_ten_toDigits
  simp only [readNat, ofNat, Number.ofNat, Number.integer?, hvalue, h, if_true]

/-- A quantity reads back. -/
theorem readQuantity_ofNat (q : Quantity) : readQuantity (ofNat q.toNat) = .ok q := by
  have hbound : q.toNat ≤ UInt64.size - 1 := Nat.le_sub_one_of_lt q.toNat_lt
  rw [readQuantity, readNat_ofNat hbound]
  exact congrArg Except.ok UInt64.ofNat_toNat

/-! ### Lists -/

section Lists

variable {α : Type} {read : Json → Read α} {write : α → Json}

/-- Items are read as they were written. -/
theorem readItems_map (h : ∀ a, read (write a) = .ok a) (as : List α) :
    readItems read (as.map write) = .ok as := by
  induction as with
  | nil => rfl
  | cons a more ih =>
      rw [List.map_cons, readItems, h, ih]
      rfl

/-- **A list** is read as it was written. -/
theorem readList_ofList (h : ∀ a, read (write a) = .ok a) (as : List α) :
    readList read (ofList (as.map write)) = .ok as := by
  change (readItems read (as.map write) >>= pure) = .ok as
  rw [readItems_map h]
  rfl

/-- The members of an object are read as they were written. -/
theorem readObject_ofMembers (h : ∀ a, read (write a) = .ok a) (entries : List (String × α)) :
    readObject read (ofMembers (entries.map fun e => (e.1, write e.2))) = .ok entries := by
  have hmembers : readMembers read
      ((entries.map fun e => (e.1, write e.2)).map fun m => (.ofString m.1, m.2))
        = .ok entries := by
    induction entries with
    | nil => rfl
    | cons e more ih =>
        rw [List.map_cons, List.map_cons, readMembers, readChars_ofString, h, ih]
        rfl
  change (readMembers read _ >>= pure) = .ok entries
  rw [hmembers]
  rfl

end Lists

end Json

/-! ### Maps -/

namespace SortedMap

variable {α : Type}

/-- What a map holds once several entries have been put into it. -/
theorem get?_foldl_insert {entries : List (String × α)}
    (h : entries.Pairwise fun x y => x.1 < y.1) (m : SortedMap α) (key : String) :
    (entries.foldl (fun m e => m.insert e.1 e.2) m).get? key
      = (lookup key entries).or (m.get? key) := by
  induction entries generalizing m with
  | nil => rfl
  | cons e more ih =>
      obtain ⟨he, hmore⟩ := List.pairwise_cons.mp h
      rw [List.foldl_cons, ih hmore, get?_insert, lookup]
      by_cases hkey : e.1 = key
      · have hnone : lookup key more = none := lookup_eq_none_of_lt (hkey ▸ he)
        rw [if_pos hkey, if_pos hkey, hnone, Option.none_or, Option.some_or]
      · rw [if_neg hkey, if_neg hkey]

/-- The map of the entries of a map is the map. -/
theorem ofList_entries (m : SortedMap α) : ofList m.entries = m := by
  refine ext_get? fun key => ?_
  rw [ofList, get?_foldl_insert m.increasing]
  exact Option.or_none

/-- **A map** is read as it was written. -/
theorem ofJson_toJson {read : Json → Json.Read α} {write : α → Json}
    (h : ∀ a, read (write a) = .ok a) (m : SortedMap α) :
    ofJson read (m.toJson write) = .ok m := by
  rw [ofJson, toJson, Json.readObject_ofMembers h]
  exact congrArg Except.ok m.ofList_entries

end SortedMap

/-! ### Identifiers -/

namespace Uuid

/-- The digits of the first group stand before the first hyphen. -/
theorem hyphenate_cons_cons (width next : Nat) (more : List Nat) (digits : List Char) :
    hyphenate (width :: next :: more) digits
      = digits.take width ++ '-' :: hyphenate (next :: more) (digits.drop width) :=
  rfl

/-- Between two groups there is one hyphen. -/
theorem length_hyphenate (width : Nat) (more : List Nat) (digits : List Char) :
    (hyphenate (width :: more) digits).length = digits.length + more.length := by
  induction more generalizing width digits with
  | nil => rfl
  | cons next more ih =>
      rw [hyphenate_cons_cons, List.length_append, List.length_cons, ih, List.length_take,
        List.length_drop, List.length_cons]
      omega

/-- Digits in groups are read as the digits. -/
theorem unhyphenate?_hyphenate {width : Nat} {more : List Nat} {digits : List Char}
    (h : digits.length = (width :: more).sum) :
    unhyphenate? (width :: more) (hyphenate (width :: more) digits) = some digits := by
  induction more generalizing width digits with
  | nil => exact if_pos h
  | cons next more ih =>
      rw [List.sum_cons] at h
      have htake : (digits.take width).length = width := by rw [List.length_take]; omega
      have hrest : unhyphenate? (next :: more) (hyphenate (next :: more) (digits.drop width))
          = some (digits.drop width) := ih (by rw [List.length_drop]; omega)
      rw [hyphenate_cons_cons]
      simp only [unhyphenate?, List.drop_left' htake, List.take_left' htake, hrest,
        Option.map_some, List.take_append_drop]

/-- **An identifier** is read as it was written. -/
theorem read?_write (u : Uuid) : read? u.write = some u := by
  have hdigits : (Hexadecimal.write 32 u.bits.toNat).length = groups.sum :=
    Hexadecimal.length_write 32 _
  have hgroups : digits? u.write = some (Hexadecimal.write 32 u.bits.toNat) := by
    have hlength : u.write.length = 36 := by
      rw [write, groups, length_hyphenate, hdigits]
      rfl
    simp only [digits?, hlength]
    exact unhyphenate?_hyphenate hdigits
  have hread : Hexadecimal.read? (Hexadecimal.write 32 u.bits.toNat) = some u.bits.toNat :=
    Hexadecimal.read?_write u.bits.isLt
  rw [read?, hgroups, Option.bind_some, hread, Option.map_some, BitVec.ofNat_toNat,
    BitVec.setWidth_eq]

/-- The text of an identifier is read as the identifier. -/
theorem ofJson_toJson (u : Uuid) : ofJson u.toJson = .ok u := by
  have hread : (read? (String.ofList u.write).toList).elim (.error .badUuid) .ok
      = (.ok u : Json.Read Uuid) := by
    rw [String.toList_ofList, read?_write]
    rfl
  have htext := Json.readString_ofString (String.ofList u.write)
  rw [ofJson, toJson, htext]
  simp only [bind, Except.bind]
  exact hread

end Uuid

/-! ### Records -/

namespace Json

/-- Among things with different keys, each is the first one with its key. -/
theorem find?_eq_some_of_nodup {β κ : Type} [DecidableEq κ] {key : β → κ} {bs : List β}
    (h : (bs.map key).Nodup) {b : β} (hb : b ∈ bs) :
    bs.find? (key · = key b) = some b := by
  obtain ⟨c, hc⟩ := Option.isSome_iff_exists.mp
    (List.find?_isSome.mpr ⟨b, hb, by simp⟩ : (bs.find? (key · = key b)).isSome)
  have hsame : key c = key b := by simpa using List.find?_some hc
  rwa [List.inj_on_of_nodup_map h (List.mem_of_find?_eq_some hc) hb hsame] at hc

/-- What is related to a list item by item is related to some of its items. -/
theorem exists_of_forall₂ {β γ : Type} {R : β → γ → Prop} {bs : List β} {cs : List γ}
    (h : List.Forall₂ R bs cs) {c : γ} (hc : c ∈ cs) : ∃ b ∈ bs, R b c := by
  induction h with
  | nil => cases hc
  | @cons b c' bs cs hb _ ih =>
      rcases List.mem_cons.mp hc with rfl | hc
      · exact ⟨b, List.mem_cons_self, hb⟩
      · obtain ⟨b', hb', hR⟩ := ih hc
        exact ⟨b', List.mem_cons_of_mem _ hb', hR⟩

/-- What is in a list twice does not depend on the order. -/
theorem duplicate_iff_of_perm {β : Type} [DecidableEq β] {b : β} {bs cs : List β}
    (h : bs.Perm cs) : List.Duplicate b bs ↔ List.Duplicate b cs := by
  rw [List.duplicate_iff_two_le_count, List.duplicate_iff_two_le_count, h.count_eq]

/-- A field finds its value among contents with distinct names. -/
theorem FieldSpec.get_of_mem {α : Type} {f : FieldSpec α} {found : List (String × Json)} {j : Json}
    {a : α} (hnames : (found.map Prod.fst).Nodup) (hmem : (f.name, j) ∈ found)
    (hread : f.read j = .ok a) : f.get found = .ok a := by
  have hfind : found.find? (·.1 = f.name) = some (f.name, j) := find?_eq_some_of_nodup hnames hmem
  rw [get, hfind]
  exact hread

/-- A field that is left out has its default value. -/
theorem FieldSpec.get_of_notMem {α : Type} {f : FieldSpec α} {found : List (String × Json)} {a : α}
    (hmem : f.name ∉ found.map Prod.fst) (hdefault : f.default = some a) :
    f.get found = .ok a := by
  have hfind : found.find? (·.1 = f.name) = none :=
    List.find?_eq_none.mpr fun e he hname =>
      hmem (List.mem_map.mpr ⟨e, he, by simpa using hname⟩)
  rw [get, hfind, hdefault]
  rfl

namespace Record

variable {fields : List FieldRule}

/-- What a record keeps of a member: its name and value if a field has that name. -/
def kept? (fields : List FieldRule) (m : Chars × Json) : Option (String × Json) :=
  match readChars m.1 with
  | .ok name => if name ∈ fields.map FieldRule.name then some (name, m.2) else none
  | .error _ => none

/-- What a record keeps of its members. -/
def entries (fields : List FieldRule) (members : List (Chars × Json)) : List (String × Json) :=
  members.filterMap (kept? fields)

/-- A member that a record does not stop at, unless one of the given names is repeated inside its
value: an unknown one that can be passed over, or the value of a field. -/
inductive Passes (fields : List FieldRule) (repeats : List String) : Chars × Json → Prop
  | unknown {t : Chars} {v : Json} {name : String} : readChars t = .ok name →
      name ∉ fields.map FieldRule.name → v.firstFault = none → Passes fields repeats (t, v)
  | known {t : Chars} {v : Json} {field : FieldRule} : field ∈ fields →
      readChars t = .ok field.name →
      (field.check v = .ok () ∨ ∃ name ∈ repeats, field.check v = .error (.duplicate name)) →
      Passes fields repeats (t, v)

/-- A member that passes where some names may be repeated passes where more of them may. -/
theorem Passes.mono {repeats repeats' : List String} (hsub : repeats ⊆ repeats') {m : Chars × Json}
    (h : Passes fields repeats m) : Passes fields repeats' m := by
  cases h with
  | unknown ht hname hv => exact .unknown ht hname hv
  | known hfield ht hcheck =>
      exact .known hfield ht (hcheck.imp_right fun ⟨name, hname, herror⟩ =>
        ⟨name, hsub hname, herror⟩)

/-- A member of a known name is kept under it. -/
theorem kept?_of_mem {m : Chars × Json} {name : String} (ht : readChars m.1 = .ok name)
    (hname : name ∈ fields.map FieldRule.name) : kept? fields m = some (name, m.2) := by
  simp only [kept?, ht, hname, if_true]

/-- The value of a field is kept. -/
theorem entries_cons_of_mem {t : Chars} {name : String} (ht : readChars t = .ok name)
    (hname : name ∈ fields.map FieldRule.name) (v : Json) (members : List (Chars × Json)) :
    entries fields ((t, v) :: members) = (name, v) :: entries fields members :=
  List.filterMap_cons_some (kept?_of_mem ht hname)

/-- A member of an unknown name is not kept. -/
theorem entries_cons_of_notMem {t : Chars} {name : String} (ht : readChars t = .ok name)
    (hname : name ∉ fields.map FieldRule.name) (v : Json) (members : List (Chars × Json)) :
    entries fields ((t, v) :: members) = entries fields members :=
  List.filterMap_cons_none (by simp only [kept?, ht, hname, if_false])

/-- An unknown member is passed over. -/
theorem scanMembers_unknown {t : Chars} {v : Json} {name : String} (ht : readChars t = .ok name)
    (hname : name ∉ fields.map FieldRule.name) (hv : v.firstFault = none)
    (found : List (String × Json)) (rest : List (Chars × Json)) :
    scanMembers fields found ((t, v) :: rest) = scanMembers fields found rest := by
  have hfind : fields.find? (·.name = name) = none :=
    List.find?_eq_none.mpr fun f hf heq => hname (List.mem_map.mpr ⟨f, hf, by simpa using heq⟩)
  rw [scanMembers, ht]
  simp only [bind, Except.bind, hfind, skip, hv]

/-- The value of a field is checked and kept, unless the field has been found before. -/
theorem scanMembers_known (hfields : (fields.map FieldRule.name).Nodup) {t : Chars} {v : Json}
    {field : FieldRule} (hfield : field ∈ fields) (ht : readChars t = .ok field.name)
    (found : List (String × Json)) (rest : List (Chars × Json)) :
    scanMembers fields found ((t, v) :: rest) =
      if field.name ∈ found.map Prod.fst then .error (.duplicate field.name)
      else (field.check v).bind fun _ => scanMembers fields ((field.name, v) :: found) rest := by
  have hfind : fields.find? (·.name = field.name) = some field :=
    find?_eq_some_of_nodup hfields hfield
  have hany : (found.any (·.1 = field.name) = true) = (field.name ∈ found.map Prod.fst) := by
    simp only [List.any_eq_true, decide_eq_true_eq, List.mem_map]
  rw [scanMembers, ht]
  simp only [bind, Except.bind, hfind, hany]

/-- Going through members to the end. -/
structure Scans (fields : List FieldRule) (found : List (String × Json))
    (members : List (Chars × Json)) : Prop where
  /-- What is kept of them is put in front of what has been found. -/
  scan : scanMembers fields found members = .ok ((entries fields members).reverse ++ found)
  distinct : ((entries fields members ++ found).map Prod.fst).Nodup
  checked : ∀ field ∈ fields, ∀ v, (field.name, v) ∈ entries fields members → field.check v = .ok ()

namespace Scans

variable {found : List (String × Json)} {rest : List (Chars × Json)} {t : Chars} {v : Json}

/-- At the end of the members there is nothing to go through. -/
theorem nil (hfound : (found.map Prod.fst).Nodup) : Scans fields found [] where
  scan := rfl
  distinct := hfound
  checked _ _ _ hmem := absurd hmem List.not_mem_nil

/-- A member of an unknown name is gone through and not kept. -/
theorem unknown (h : Scans fields found rest) {name : String} (ht : readChars t = .ok name)
    (hname : name ∉ fields.map FieldRule.name) (hv : v.firstFault = none) :
    Scans fields found ((t, v) :: rest) := by
  have hentries : entries fields ((t, v) :: rest) = entries fields rest :=
    entries_cons_of_notMem ht hname v rest
  refine ⟨?_, hentries ▸ h.distinct, hentries ▸ h.checked⟩
  rw [scanMembers_unknown ht hname hv, hentries, h.scan]

/-- A member of a known name that has not been found before is checked and kept. -/
theorem known {field : FieldRule} (h : Scans fields ((field.name, v) :: found) rest)
    (hfields : (fields.map FieldRule.name).Nodup) (hfield : field ∈ fields)
    (ht : readChars t = .ok field.name) (hnew : field.name ∉ found.map Prod.fst)
    (hcheck : field.check v = .ok ()) : Scans fields found ((t, v) :: rest) := by
  have hentries : entries fields ((t, v) :: rest) = (field.name, v) :: entries fields rest :=
    entries_cons_of_mem ht (List.mem_map_of_mem hfield) v rest
  refine ⟨?_, ?_, fun f hf u hu => ?_⟩
  · rw [scanMembers_known hfields hfield ht, if_neg hnew, hcheck, hentries, List.reverse_cons,
      List.append_assoc]
    exact h.scan
  · rw [hentries]
    exact (List.perm_middle.map Prod.fst).nodup_iff.mp h.distinct
  · rcases List.mem_cons.mp (hentries ▸ hu) with heq | hu
    · obtain ⟨hname, rfl⟩ := Prod.mk.inj heq
      exact List.inj_on_of_nodup_map hfields hf hfield hname ▸ hcheck
    · exact h.checked f hf u hu

end Scans

/-- **How going through members can end**, if the record does not stop at any of them and the given
names are all that are met twice: at the last of them, or at one of the given names. -/
theorem scanMembers_cases (hfields : (fields.map FieldRule.name).Nodup) {repeats : List String}
    {members : List (Chars × Json)} (h : ∀ m ∈ members, Passes fields repeats m)
    {found : List (String × Json)} (hfound : (found.map Prod.fst).Nodup)
    (htwice : ∀ name, List.Duplicate name ((entries fields members ++ found).map Prod.fst) →
      name ∈ repeats) :
    Scans fields found members ∨
      ∃ name ∈ repeats, scanMembers fields found members = .error (.duplicate name) := by
  induction members generalizing found with
  | nil => exact .inl (.nil hfound)
  | cons m rest ih =>
      obtain ⟨hm, hrest⟩ := List.forall_mem_cons.mp h
      cases hm with
      | @unknown t v name ht hname hv =>
          rw [entries_cons_of_notMem ht hname] at htwice
          rw [scanMembers_unknown ht hname hv]
          exact (ih hrest hfound htwice).imp_left fun hscans => hscans.unknown ht hname hv
      | @known t v field hfield ht hcheck =>
          rw [entries_cons_of_mem ht (List.mem_map_of_mem hfield)] at htwice
          by_cases hold : field.name ∈ found.map Prod.fst
          · have hlater : field.name ∈ (entries fields rest ++ found).map Prod.fst :=
              List.map_subset Prod.fst (List.subset_append_right _ _) hold
            refine .inr ⟨field.name, htwice _ (.cons_mem hlater), ?_⟩
            rw [scanMembers_known hfields hfield ht, if_pos hold]
          rcases hcheck with hcheck | ⟨name, hname, hcheck⟩
          · -- What is still to be met and what has been found are the same names as before.
            have hperm : ((entries fields rest ++ (field.name, v) :: found).map Prod.fst).Perm
                (((field.name, v) :: entries fields rest ++ found).map Prod.fst) :=
              List.perm_middle.map Prod.fst
            have hscan : scanMembers fields found ((t, v) :: rest)
                = scanMembers fields ((field.name, v) :: found) rest := by
              rw [scanMembers_known hfields hfield ht, if_neg hold, hcheck]
              rfl
            have hnew : (((field.name, v) :: found).map Prod.fst).Nodup :=
              List.nodup_cons.mpr ⟨hold, hfound⟩
            rw [hscan]
            exact (ih hrest hnew fun name hdup =>
              htwice name ((duplicate_iff_of_perm hperm).mp hdup)).imp_left fun hscans =>
                hscans.known hfields hfield ht hold hcheck
          · refine .inr ⟨name, hname, ?_⟩
            rw [scanMembers_known hfields hfield ht, if_neg hold, hcheck]
            rfl

end Record

/-! ### Records written in order -/

/-- A member is taken by a field: it has its name, and its value is read. -/
structure FieldRule.Takes (field : FieldRule) (member : String × Json) : Prop where
  name : member.1 = field.name
  check : field.check member.2 = .ok ()

/-- A field takes a member of its name that it can read. -/
theorem FieldSpec.takes {α : Type} {f : FieldSpec α} {j : Json} {a : α}
    (h : f.read j = .ok a) : f.rule.Takes (f.name, j) where
  name := rfl
  check := by
    change (f.read j).map _ = .ok ()
    rw [h]
    rfl

namespace Record

variable {fields : List FieldRule} {members : List (String × Json)}

/-- Members that are taken have the names of the fields. -/
theorem map_name_eq (h : List.Forall₂ FieldRule.Takes fields members) :
    members.map Prod.fst = fields.map FieldRule.name := by
  induction h with
  | nil => rfl
  | cons htakes _ ih => rw [List.map_cons, List.map_cons, htakes.name, ih]

/-- Members that all have names of fields are kept. -/
theorem entries_ofString (h : members.map Prod.fst ⊆ fields.map FieldRule.name) :
    entries fields (members.map fun m => (.ofString m.1, m.2)) = members := by
  induction members with
  | nil => rfl
  | cons e more ih =>
      obtain ⟨he, hmore⟩ := List.cons_subset.mp h
      rw [List.map_cons, entries_cons_of_mem (readChars_ofString e.1) he, ih hmore]

/-- **The contents of a record** whose members are taken by its fields in order. -/
theorem contents_ofMembers (origin : Origin) (hnames : (fields.map FieldRule.name).Nodup)
    (h : List.Forall₂ FieldRule.Takes fields members) :
    contents origin fields (.ofMembers members) = .ok members.reverse := by
  have hpass : ∀ m ∈ members.map fun m => (Chars.ofString m.1, m.2), Passes fields [] m := by
    intro m hm
    obtain ⟨e, he, rfl⟩ := List.mem_map.mp hm
    obtain ⟨field, hfield, htakes⟩ := exists_of_forall₂ h he
    exact .known hfield (htakes.name ▸ readChars_ofString e.1) (.inl htakes.check)
  have hentries : entries fields (members.map fun m => (Chars.ofString m.1, m.2)) = members :=
    entries_ofString (map_name_eq h ▸ List.Subset.refl _)
  have hnodup : (members.map Prod.fst).Nodup := map_name_eq h ▸ hnames
  have htwice : ∀ name, List.Duplicate name ((members ++ []).map Prod.fst) → name ∈ [] := by
    rw [List.append_nil]
    exact fun name hdup => absurd hnodup hdup.not_nodup
  have hnone : (([] : List (String × Json)).map Prod.fst).Nodup := List.nodup_nil
  rcases scanMembers_cases hnames hpass hnone (hentries.symm ▸ htwice)
    with hscans | ⟨name, hname, -⟩
  · rw [ofMembers, contents, hscans.scan, hentries, List.append_nil]
    rfl
  · cases hname

/-- **A record** whose members are taken by its fields in order has contents in which every field
finds its own value. -/
theorem exists_contents (origin : Origin) (hnames : (fields.map FieldRule.name).Nodup)
    (h : List.Forall₂ FieldRule.Takes fields members) :
    ∃ found, contents origin fields (.ofMembers members) = .ok found ∧
      ∀ {α : Type} {f : FieldSpec α} {j : Json} {a : α}, f.read j = .ok a →
        (f.name, j) ∈ members → f.get found = .ok a := by
  have hnodup : (members.reverse.map Prod.fst).Nodup := by
    rw [List.map_reverse, List.nodup_reverse, map_name_eq h]
    exact hnames
  exact ⟨members.reverse, contents_ofMembers origin hnames h,
    fun hread hmem => FieldSpec.get_of_mem hnodup (List.mem_reverse.mpr hmem) hread⟩

end Record

end Json

end GpuLedger
