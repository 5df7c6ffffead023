import GpuLedger.Json.Reading
import GpuLedger.Proofs.Json.Units

/-!
# Documents in Any Layout

The texts of a document are laid down by the grammar of JSON (`Json.Written`): where the value of a
part is fixed, its text may still be spelled in different ways and have white space around it. A
document is read from its units (`Json.units`), and the units are all that a layout leaves of it:
a text **spells** a document if it is cut into the units of the document, whatever text is put
behind it that no number goes on with (`Json.Spells`). So that a document reads back is two facts,
one about the text and one about its units:

* every text of a document spells it (`Json.Written.spells`);
* the units of a document are put together to the document (`Json.Proper.build_units`), so every
  text that spells it is read as it (`Json.Proper.document_of_spells`).

Both are inductions, on how the text is made up and on the document. The document has to be
**proper** (`Json.Proper`): it does not break off anywhere, and there is a text for each of its
units. A document has a text exactly if it is proper, and both layouts that are printed are texts of
it (`Json.Proper.written_compact`, `Json.Proper.written_prettyAt`).

## Main results

* `Json.Written.readText_eq` — a reader sees a document through every text of it;
* `Json.Proper.readText_compactText` and `Json.Proper.readText_prettyText` — in particular through
  what is printed for it.
-/

namespace GpuLedger

namespace Json

/-- A document that does not break off, with proper units only. -/
inductive Proper : Json → Prop
  | null : Proper .null
  | bool (b : Bool) : Proper (.bool b)
  | number {n : Number} : n.Proper → Proper (.number n)
  | string {t : Chars} : t.Proper → Proper (.string t)
  | array {items : List Json} : (∀ v ∈ items, Proper v) → Proper (.array items none)
  | object {members : List (Chars × Json)} : (∀ m ∈ members, m.1.Proper) →
      (∀ m ∈ members, Proper m.2) → Proper (.object members none)

/-! ### The texts of a document -/

/-- White space as it may stand between the units of a text. -/
def IsBlank (text : List Char) : Prop :=
  ∀ c ∈ text, c ∈ [' ', '\t', '\n', '\r']

/-- A member of an object with the texts of its name and of its value. -/
structure WrittenMember where
  name : Chars
  nameText : List Char
  value : Json
  valueText : List Char

namespace WrittenMember

/-- The member without its texts. -/
def member (m : WrittenMember) : Chars × Json :=
  (m.name, m.value)

/-- The text of the member. -/
def text (m : WrittenMember) : List Char :=
  m.nameText ++ ':' :: m.valueText

end WrittenMember

/-- **The grammar of texts**: how a document may be written. Items and members are parted by commas,
names and values by colons; white space may stand around every unit. -/
inductive Written : Json → List Char → Prop
  | null : Written .null ['n', 'u', 'l', 'l']
  | bool (b : Bool) : Written (.bool b) (writeBool b)
  | number {n : Number} {text : List Char} : n.Written text → Written (.number n) text
  | string {t : Chars} {text : List Char} : t.Written text → Written (.string t) text
  | array {items : List (Json × List Char)} {blank : List Char} :
      (∀ i ∈ items, Written i.1 i.2) → IsBlank blank →
      Written (.array (items.map Prod.fst) none)
        ('[' :: ([','].intercalate (items.map Prod.snd) ++ (blank ++ [']'])))
  | object {members : List WrittenMember} {blank : List Char} :
      (∀ m ∈ members, Written (.string m.name) m.nameText) →
      (∀ m ∈ members, Written m.value m.valueText) → IsBlank blank →
      Written (.object (members.map WrittenMember.member) none)
        ('\x7b' :: ([','].intercalate (members.map WrittenMember.text) ++ (blank ++ ['\x7d'])))
  | spaced {j : Json} {before text after : List Char} : IsBlank before → Written j text →
      IsBlank after → Written j (before ++ (text ++ after))

/-- A document that has a text is proper. -/
theorem Written.proper {j : Json} {text : List Char} (h : Written j text) : j.Proper := by
  induction h with
  | null => exact .null
  | bool b => exact .bool b
  | number h => exact .number h.1
  | string h => exact .string h.proper
  | array _ _ ih =>
      refine .array fun v hv => ?_
      obtain ⟨i, hi, rfl⟩ := List.mem_map.mp hv
      exact ih i hi
  | object _ _ _ ihname ihvalue =>
      refine .object (fun m hm => ?_) (fun m hm => ?_)
      · obtain ⟨w, hw, rfl⟩ := List.mem_map.mp hm
        cases ihname w hw with
        | string ht => exact ht
      · obtain ⟨w, hw, rfl⟩ := List.mem_map.mp hm
        exact ihvalue w hw
  | spaced _ _ _ ih => exact ih

/-! ### The units of a document -/

mutual

/-- The units of a document in their order. -/
def units : Json → List Token
  | .null => [.null]
  | .bool b => [.bool b]
  | .number n => [.number n]
  | .string t => [.string t]
  | .array [] _ => [.arrayStart, .arrayEnd]
  | .array (v :: more) _ => .arrayStart :: (units v ++ (itemUnits more ++ [.arrayEnd]))
  | .object [] _ => [.objectStart, .objectEnd]
  | .object ((name, v) :: more) _ =>
    .objectStart :: .string name :: .colon :: (units v ++ (memberUnits more ++ [.objectEnd]))
  | .broken b => [.broken b]
termination_by structural j => j

/-- The units of the items behind the first one. -/
def itemUnits : List Json → List Token
  | [] => []
  | v :: more => .comma :: (units v ++ itemUnits more)
termination_by structural items => items

/-- The units of the members behind the first one. -/
def memberUnits : List (Chars × Json) → List Token
  | [] => []
  | (name, v) :: more => .comma :: .string name :: .colon :: (units v ++ memberUnits more)
termination_by structural members => members

end

/-- A text is cut into the units of a document, whatever is behind it. -/
def Spells (text : List Char) (j : Json) : Prop :=
  ∀ rest, Ends rest → tokens (text ++ rest) = j.units ++ tokens rest

/-! ### Every text spells its document -/

/-- A comma ends a number. -/
theorem ends_comma (text : List Char) : Ends (',' :: text) := ends_cons rfl text

/-- White space between units makes no difference. -/
theorem tokens_blank {blank : List Char} (h : IsBlank blank) (rest : List Char) :
    tokens (blank ++ rest) = tokens rest := by
  refine tokens_spaces (fun c hc => ?_) rest
  have hspace : ∀ d ∈ [' ', '\t', '\n', '\r'], isSpace d = true := by simp [isSpace]
  exact hspace c (h c hc)

/-- No number goes on behind white space. -/
theorem IsBlank.ends_append {blank : List Char} (h : IsBlank blank) {rest : List Char}
    (hrest : Ends rest) : Ends (blank ++ rest) := by
  cases blank with
  | nil => exact hrest
  | cons c more =>
      have hspace : ∀ d ∈ [' ', '\t', '\n', '\r'], continuesNumber d = false := by
        simp [continuesNumber]
      exact ends_cons (hspace c (h c List.mem_cons_self)) _

/-- Texts with commas between them: the first one, then each with its comma. -/
theorem intercalate_comma (text : List Char) (more : List (List Char)) :
    [','].intercalate (text :: more) = text ++ more.flatMap (',' :: ·) := by
  induction more generalizing text with
  | nil => rw [List.intercalate_singleton, List.flatMap_nil, List.append_nil]
  | cons next more ih =>
      rw [List.intercalate_cons_cons, ih, List.flatMap_cons, List.append_assoc]
      rfl

/-- Items behind the first one. -/
theorem tokens_items {items : List (Json × List Char)} (h : ∀ i ∈ items, Spells i.2 i.1)
    {rest : List Char} (hrest : Ends rest) :
    Ends ((items.map Prod.snd).flatMap (',' :: ·) ++ rest) ∧
      tokens ((items.map Prod.snd).flatMap (',' :: ·) ++ rest)
        = itemUnits (items.map Prod.fst) ++ tokens rest := by
  induction items with
  | nil => exact ⟨hrest, rfl⟩
  | cons i more ih =>
      obtain ⟨hends, hmore⟩ := ih fun u hu => h u (List.mem_cons_of_mem _ hu)
      refine ⟨ends_comma _, ?_⟩
      rw [List.map_cons, List.flatMap_cons, List.append_assoc, List.cons_append,
        tokens_mark (c := ',') rfl, h i List.mem_cons_self _ hends, hmore, List.map_cons, itemUnits,
        List.cons_append, List.append_assoc]

/-- The text of a member. -/
theorem tokens_member {m : WrittenMember} (hname : Spells m.nameText (.string m.name))
    (hvalue : Spells m.valueText m.value) {rest : List Char} (hrest : Ends rest) :
    tokens (m.text ++ rest) = .string m.name :: .colon :: (m.value.units ++ tokens rest) := by
  rw [WrittenMember.text, List.append_assoc, List.cons_append, hname _ (ends_cons rfl _),
    tokens_mark (c := ':') rfl, hvalue rest hrest, units]
  rfl

/-- Members behind the first one. -/
theorem tokens_members {members : List WrittenMember}
    (hnames : ∀ m ∈ members, Spells m.nameText (.string m.name))
    (hvalues : ∀ m ∈ members, Spells m.valueText m.value) {rest : List Char} (hrest : Ends rest) :
    Ends ((members.map WrittenMember.text).flatMap (',' :: ·) ++ rest) ∧
      tokens ((members.map WrittenMember.text).flatMap (',' :: ·) ++ rest)
        = memberUnits (members.map WrittenMember.member) ++ tokens rest := by
  induction members with
  | nil => exact ⟨hrest, rfl⟩
  | cons m more ih =>
      obtain ⟨hends, hmore⟩ := ih (fun u hu => hnames u (List.mem_cons_of_mem _ hu))
        (fun u hu => hvalues u (List.mem_cons_of_mem _ hu))
      refine ⟨ends_comma _, ?_⟩
      rw [List.map_cons, List.flatMap_cons, List.append_assoc, List.cons_append,
        tokens_mark (c := ',') rfl,
        tokens_member (hnames m List.mem_cons_self) (hvalues m List.mem_cons_self) hends, hmore,
        List.map_cons, WrittenMember.member, memberUnits]
      simp only [List.cons_append, List.append_assoc]

/-- **Every text of a document spells it.** -/
theorem Written.spells {j : Json} {text : List Char} (h : Written j text) : Spells text j := by
  induction h with
  | null => exact fun rest _ => tokens_null rest
  | bool b => exact fun rest _ => tokens_bool b rest
  | number h => exact fun rest hrest => tokens_number h hrest
  | string h => exact fun rest _ => tokens_string h rest
  | @array items blank _ hblank ih =>
      intro rest hrest
      have hclose : tokens (blank ++ ']' :: rest) = .arrayEnd :: tokens rest := by
        rw [tokens_blank hblank, tokens_mark (c := ']') rfl]
      cases items with
      | nil =>
          change tokens ('[' :: (blank ++ [']'] ++ rest)) = _
          rw [tokens_mark (c := '[') rfl, List.append_assoc]
          exact congrArg _ hclose
      | cons i more =>
          obtain ⟨hends, hmore⟩ := tokens_items (fun u hu => ih u (List.mem_cons_of_mem _ hu))
            (hblank.ends_append (ends_cons (c := ']') rfl rest))
          rw [List.map_cons, List.map_cons, intercalate_comma, units]
          simp only [List.cons_append, List.append_assoc, List.nil_append]
          rw [tokens_mark (c := '[') rfl, ih i List.mem_cons_self _ hends, hmore, hclose]
  | @object members blank _ _ hblank ihname ihvalue =>
      intro rest hrest
      have hclose : tokens (blank ++ '\x7d' :: rest) = .objectEnd :: tokens rest := by
        rw [tokens_blank hblank, tokens_mark (c := '\x7d') rfl]
      cases members with
      | nil =>
          change tokens ('\x7b' :: (blank ++ ['\x7d'] ++ rest)) = _
          rw [tokens_mark (c := '\x7b') rfl, List.append_assoc]
          exact congrArg _ hclose
      | cons m more =>
          obtain ⟨hends, hmore⟩ := tokens_members (fun u hu => ihname u (List.mem_cons_of_mem _ hu))
            (fun u hu => ihvalue u (List.mem_cons_of_mem _ hu))
            (hblank.ends_append (ends_cons (c := '\x7d') rfl rest))
          rw [List.map_cons, List.map_cons, intercalate_comma, WrittenMember.member, units]
          simp only [List.cons_append, List.append_assoc, List.nil_append]
          rw [tokens_mark (c := '\x7b') rfl,
            tokens_member (ihname m List.mem_cons_self) (ihvalue m List.mem_cons_self) hends, hmore,
            hclose]
  | spaced hbefore _ hafter ih =>
      intro rest hrest
      rw [List.append_assoc, List.append_assoc, tokens_blank hbefore,
        ih _ (hafter.ends_append hrest), tokens_blank hafter]

/-! ### Texts that are printed -/

/-- No text at all is blank. -/
theorem isBlank_nil : IsBlank [] := nofun

/-- A single space is blank. -/
theorem isBlank_space : IsBlank [' '] := List.forall_mem_singleton.mpr List.mem_cons_self

/-- A new line with its indentation is blank. -/
theorem isBlank_newLine (depth : Nat) : IsBlank (newLine depth) := by
  refine List.forall_mem_cons.mpr ⟨by decide, fun c hc => ?_⟩
  rw [(List.mem_replicate.mp hc).2]
  exact List.mem_cons_self

/-- White space in front only. -/
theorem Written.behind {j : Json} {before text : List Char} (hbefore : IsBlank before)
    (h : Written j text) : Written j (before ++ text) := by
  have hspaced := Written.spaced hbefore h isBlank_nil
  rwa [List.append_nil] at hspaced

/-- A list of documents, each with the text that a printer makes of it. -/
theorem Written.array_map {items : List Json} {blank : List Char} (print : Json → List Char)
    (h : ∀ v ∈ items, Written v (print v)) (hblank : IsBlank blank) :
    Written (.array items none)
      ('[' :: ([','].intercalate (items.map print) ++ (blank ++ [']']))) := by
  have hall : ∀ i ∈ items.map fun v => (v, print v), Written i.1 i.2 := by
    intro i hi
    obtain ⟨v, hv, rfl⟩ := List.mem_map.mp hi
    exact h v hv
  have harray := Written.array hall hblank
  rwa [List.map_map, List.map_map, show Prod.fst ∘ (fun v => (v, print v)) = id from rfl,
    List.map_id] at harray

/-- An object, each of whose names and values has the text that a printer makes of it. -/
theorem Written.object_map {members : List (Chars × Json)} {before blank : List Char}
    (print : Json → List Char) (hbefore : IsBlank before) (hnames : ∀ m ∈ members, m.1.Proper)
    (h : ∀ m ∈ members, Written m.2 (print m.2)) (hblank : IsBlank blank) :
    Written (.object members none)
      ('\x7b' :: ([','].intercalate
          (members.map fun m => before ++ m.1.write ++ ':' :: print m.2)
        ++ (blank ++ ['\x7d']))) := by
  let written (m : Chars × Json) : WrittenMember := ⟨m.1, before ++ m.1.write, m.2, print m.2⟩
  have hnameTexts : ∀ w ∈ members.map written, Written (.string w.name) w.nameText := by
    intro w hw
    obtain ⟨m, hm, rfl⟩ := List.mem_map.mp hw
    exact .behind hbefore (.string (hnames m hm).written_write)
  have hvalueTexts : ∀ w ∈ members.map written, Written w.value w.valueText := by
    intro w hw
    obtain ⟨m, hm, rfl⟩ := List.mem_map.mp hw
    exact h m hm
  have hobject := Written.object hnameTexts hvalueTexts hblank
  rwa [List.map_map, List.map_map, show WrittenMember.member ∘ written = id from rfl,
    List.map_id] at hobject

/-- The items of an array are printed with commas between them. -/
theorem compactItems_eq (items : List Json) :
    compactItems items = [','].intercalate (items.map compact) := by
  cases items with
  | nil => rfl
  | cons v more =>
      rw [List.map_cons, intercalate_comma]
      induction more generalizing v with
      | nil => exact (List.append_nil _).symm
      | cons u more ih => exact congrArg (compact v ++ ',' :: ·) (ih u)

/-- The members of an object are printed with commas between them. -/
theorem compactMembers_eq (members : List (Chars × Json)) :
    compactMembers members
      = [','].intercalate (members.map fun m => m.1.write ++ ':' :: compact m.2) := by
  cases members with
  | nil => rfl
  | cons m more =>
      rw [List.map_cons, intercalate_comma]
      induction more generalizing m with
      | nil => exact (List.append_nil _).symm
      | cons u more ih => exact congrArg (m.1.write ++ ':' :: compact m.2 ++ ',' :: ·) (ih u)

/-- **Without white space** a document is printed as one of its texts. -/
theorem Proper.written_compact {j : Json} (hj : j.Proper) : Written j j.compact := by
  induction hj with
  | null => exact .null
  | bool b => exact .bool b
  | number hn => exact .number hn.written_write
  | string ht => exact .string ht.written_write
  | array _ ih =>
      rw [compact, compactItems_eq]
      exact .array_map compact ih isBlank_nil
  | object hnames _ ih =>
      rw [compact, compactMembers_eq]
      exact .object_map compact isBlank_nil hnames ih isBlank_nil

/-- Items on lines of their own have commas in front of them, which the first one loses. -/
theorem prettyItems_eq (depth : Nat) (items : List Json) :
    prettyItems depth items
      = (items.map fun v => newLine depth ++ v.prettyAt depth).flatMap (',' :: ·) := by
  induction items with
  | nil => rfl
  | cons v more ih =>
      rw [prettyItems, ih, List.map_cons, List.flatMap_cons]
      rfl

/-- Members on lines of their own have commas in front of them, which the first one loses. -/
theorem prettyMembers_eq (depth : Nat) (members : List (Chars × Json)) :
    prettyMembers depth members
      = (members.map fun m => newLine depth ++ m.1.write ++ ':' :: (' ' :: m.2.prettyAt depth)
        ).flatMap (',' :: ·) := by
  induction members with
  | nil => rfl
  | cons m more ih =>
      rw [prettyMembers, ih, List.map_cons, List.flatMap_cons]
      rfl

/-- **With one item a line** a document is printed as one of its texts, at any depth. -/
theorem Proper.written_prettyAt {j : Json} (hj : j.Proper) (depth : Nat) :
    Written j (j.prettyAt depth) := by
  induction hj generalizing depth with
  | null => exact .null
  | bool b => exact .bool b
  | number hn => exact .number hn.written_write
  | string ht => exact .string ht.written_write
  | @array items hitems ih =>
      have harray := Written.array_map (fun v => newLine (depth + 1) ++ v.prettyAt (depth + 1))
        (fun v hv => (ih v hv (depth + 1)).behind (isBlank_newLine (depth + 1)))
        (isBlank_newLine depth)
      cases items with
      | nil => exact Proper.written_compact (.array hitems)
      | cons v more =>
          rw [List.map_cons, intercalate_comma, ← prettyItems_eq] at harray
          rw [prettyAt]
          exact harray
  | @object members hnames hvalues ih =>
      have hobject := Written.object_map (fun v => ' ' :: v.prettyAt (depth + 1))
        (isBlank_newLine (depth + 1)) hnames
        (fun m hm => (ih m hm (depth + 1)).behind isBlank_space) (isBlank_newLine depth)
      cases members with
      | nil => exact Proper.written_compact (.object hnames hvalues)
      | cons m more =>
          rw [List.map_cons, intercalate_comma, ← prettyMembers_eq] at hobject
          rw [prettyAt]
          exact hobject

/-! ### Units put together -/

/-- Items after the first one are put behind it. -/
theorem build_itemUnits {items : List Json}
    (h : ∀ v ∈ items, ∀ orEnd around rest,
      build (.value orEnd) around (v.units ++ rest) = build (.after v) around rest)
    (v : Json) (before : List Json) (around : List Frame) (rest : List Token) :
    build (.after v) (.item before :: around) (itemUnits items ++ .arrayEnd :: rest)
      = build (.after (.array (before.reverse ++ v :: items) none)) around rest := by
  induction items generalizing v before with
  | nil =>
      have hitems : (v :: before).reverse = before.reverse ++ [v] := List.reverse_cons
      rw [← hitems]
      rfl
  | cons u more ih =>
      have hmore := ih (fun x hx => h x (List.mem_cons_of_mem _ hx)) u (v :: before)
      calc build (.after v) (.item before :: around) (itemUnits (u :: more) ++ .arrayEnd :: rest)
          = build (.value false) (.item (v :: before) :: around)
              (u.units ++ (itemUnits more ++ .arrayEnd :: rest)) := by
            rw [itemUnits, List.cons_append, List.append_assoc]
            rfl
        _ = build (.after (.array (before.reverse ++ v :: u :: more) none)) around rest := by
            rw [h u List.mem_cons_self, hmore, List.reverse_cons, List.append_assoc]
            rfl

/-- The name of a member and the colon behind it. -/
theorem build_name {name : Chars} (hname : name.Proper) (before : List (Chars × Json))
    (orEnd : Bool) (around : List Frame) (rest : List Token) :
    build (.name before orEnd) around (.string name :: .colon :: rest)
      = build (.value false) (.member before name :: around) rest := by
  have hstop : name.stop.isSome = false := by rw [hname.stop]; rfl
  simp only [build, step, hstop, Bool.false_eq_true, if_false]

/-- Members after the first one are put behind it. -/
theorem build_memberUnits {members : List (Chars × Json)}
    (hnames : ∀ m ∈ members, m.1.Proper)
    (h : ∀ m ∈ members, ∀ orEnd around rest,
      build (.value orEnd) around (m.2.units ++ rest) = build (.after m.2) around rest)
    (m : Chars × Json) (before : List (Chars × Json)) (around : List Frame) (rest : List Token) :
    build (.after m.2) (.member before m.1 :: around) (memberUnits members ++ .objectEnd :: rest)
      = build (.after (.object (before.reverse ++ m :: members) none)) around rest := by
  induction members generalizing m before with
  | nil =>
      have hmembers : (m :: before).reverse = before.reverse ++ [m] := List.reverse_cons
      rw [← hmembers]
      rfl
  | cons u more ih =>
      have hmore := ih (fun x hx => hnames x (List.mem_cons_of_mem _ hx))
        (fun x hx => h x (List.mem_cons_of_mem _ hx)) u (m :: before)
      calc build (.after m.2) (.member before m.1 :: around)
            (memberUnits (u :: more) ++ .objectEnd :: rest)
          = build (.name (m :: before) false) around
              (.string u.1 :: .colon ::
                (u.2.units ++ (memberUnits more ++ .objectEnd :: rest))) := by
            rw [memberUnits]
            simp only [List.cons_append, List.append_assoc]
            rfl
        _ = build (.after (.object (before.reverse ++ m :: u :: more) none)) around rest := by
            rw [build_name (hnames u List.mem_cons_self), h u List.mem_cons_self, hmore,
              List.reverse_cons, List.append_assoc]
            rfl

/-- **The units of a document** are put together to the document. -/
theorem Proper.build_units {j : Json} (hj : j.Proper) (orEnd : Bool) (around : List Frame)
    (rest : List Token) :
    build (.value orEnd) around (j.units ++ rest) = build (.after j) around rest := by
  induction hj generalizing orEnd around rest with
  | null => rfl
  | bool b => rfl
  | number _ => rfl
  | @string t ht =>
      have hstop : t.stop.isSome = false := by rw [ht.stop]; rfl
      simp only [units, List.cons_append, List.nil_append, build, step, hstop,
        Bool.false_eq_true, if_false]
  | @array items _ ih =>
      cases items with
      | nil => rfl
      | cons v more =>
          have hmore := build_itemUnits (fun u hu => ih u (List.mem_cons_of_mem _ hu)) v [] around
            rest
          calc build (.value orEnd) around ((Json.array (v :: more) none).units ++ rest)
              = build (.value true) (.item [] :: around)
                  (v.units ++ (itemUnits more ++ .arrayEnd :: rest)) := by
                rw [units]
                simp only [List.cons_append, List.append_assoc, List.nil_append]
                rfl
            _ = build (.after (.array (v :: more) none)) around rest := by
                rw [ih v List.mem_cons_self, hmore]
                rfl
  | @object members hnames _ ih =>
      cases members with
      | nil => rfl
      | cons m more =>
          have hmore := build_memberUnits (fun u hu => hnames u (List.mem_cons_of_mem _ hu))
            (fun u hu => ih u (List.mem_cons_of_mem _ hu)) m [] around rest
          calc build (.value orEnd) around ((Json.object (m :: more) none).units ++ rest)
              = build (.name [] true) around
                  (.string m.1 :: .colon ::
                    (m.2.units ++ (memberUnits more ++ .objectEnd :: rest))) := by
                rw [units]
                simp only [List.cons_append, List.append_assoc, List.nil_append]
                rfl
            _ = build (.after (.object (m :: more) none)) around rest := by
                rw [build_name (hnames m List.mem_cons_self), ih m List.mem_cons_self, hmore]
                rfl

/-! ### Texts read as documents -/

section Reading

variable {j : Json} {text : List Char}

/-- **A text that spells a document** is read as it. -/
theorem Proper.document_of_spells (hj : j.Proper) (h : Spells text j) :
    document text = { value := j } := by
  have htokens : tokens text = j.units := by
    have hall := h [] ends_nil
    rwa [List.append_nil, show tokens [] = [] from rfl, List.append_nil] at hall
  have hbuild := hj.build_units false [] []
  rw [List.append_nil] at hbuild
  rw [document, htokens, hbuild]
  rfl

variable {α : Type} (read : Json → Read α)

/-- **A reader** sees a document through every text of it. -/
theorem Written.readText_eq {text : String} (h : Written j text.toList) :
    readText read text = read j := by
  rw [readText, h.proper.document_of_spells h.spells]
  cases read j <;> rfl

/-- A reader sees a document in the text without white space. -/
theorem Proper.readText_compactText (hj : j.Proper) : readText read j.compactText = read j :=
  Written.readText_eq read (by rw [compactText, String.toList_ofList]; exact hj.written_compact)

/-- A reader sees a document in the text with one item a line. -/
theorem Proper.readText_prettyText (hj : j.Proper) : readText read j.prettyText = read j :=
  Written.readText_eq read (by rw [prettyText, String.toList_ofList]; exact hj.written_prettyAt 0)

end Reading

end Json

end GpuLedger
