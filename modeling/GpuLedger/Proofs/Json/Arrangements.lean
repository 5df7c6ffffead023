import GpuLedger.Proofs.Json.Values
import Mathlib.Data.List.Perm.Basic

/-!
# Records in Any Arrangement

An object that stands for a record need not look like the one that is printed. Its members may come
in any order, members that no field asks for may stand among them, and a member whose value is the
default may be missing (`Json.Arrangement`). A member may even be repeated, but then nothing is
read: the arrangement keeps account of all names that are repeated in it, also inside the values.

What an object has to say is laid down by **slots** (`Json.Slot`), which know nothing of how fields
are read. A field **serves** a slot if it reads the documents of the slot as the value that it is
about (`Json.FieldSpec.Serves`). Reading then **settles** on a value or complains about a repeated
name (`Json.Settles`), and that it does is shown for each kind of value on its own.

## Main results

* `Json.settles_readList` — a list settles if its items do;
* `Json.Record.settles_contents` — so does a record, in any arrangement.
-/

namespace GpuLedger

namespace Json

/-! ### What an object says -/

/-- What the object of a record is to say in one place: the name, the documents of the value, and
whether it may be left out. Each document comes with the names of the members that are repeated in
it. A member that is repeated may have any value that can be read. -/
structure Slot where
  name : String
  form : List String → Json → Prop
  readable : Json → Prop
  omittable : Prop

/-- Members for slots in their order, and the names that are repeated inside their values. -/
inductive Fills : List Slot → List String → List (Chars × Json) → Prop
  | nil : Fills [] [] []
  | given {slot : Slot} {slots : List Slot} {t : Chars} {v : Json} {inner repeats : List String}
      {members : List (Chars × Json)} : t.StandsFor slot.name → slot.form inner v →
      Fills slots repeats members → Fills (slot :: slots) (inner ++ repeats) ((t, v) :: members)
  | omitted {slot : Slot} {slots : List Slot} {repeats : List String}
      {members : List (Chars × Json)} : slot.omittable → Fills slots repeats members →
      Fills (slot :: slots) repeats members

/-- A member in whose value nothing is repeated. -/
theorem Fills.cons {slot : Slot} {slots : List Slot} {t : Chars} {v : Json} {repeats : List String}
    {members : List (Chars × Json)} (ht : t.StandsFor slot.name) (hv : slot.form [] v)
    (h : Fills slots repeats members) : Fills (slot :: slots) repeats ((t, v) :: members) :=
  .given ht hv h

/-- **The members of an object** that says what slots ask for. Members are unknown if no slot has
their name, which is a text: a literal with half of a character left over names nothing. -/
inductive Arrangement (slots : List Slot) : List String → List (Chars × Json) → Prop
  | inOrder {repeats : List String} {members : List (Chars × Json)} :
      Fills slots repeats members → Arrangement slots repeats members
  | unknown {repeats : List String} {members : List (Chars × Json)} {t : Chars} {name : String}
      {v : Json} : t.StandsFor name → name ∉ slots.map Slot.name →
      Arrangement slots repeats members → Arrangement slots repeats ((t, v) :: members)
  | repeated {repeats : List String} {members : List (Chars × Json)} {slot : Slot} {t : Chars}
      {v : Json} : slot ∈ slots → t.StandsFor slot.name → slot.readable v →
      (∃ m ∈ members, m.1.StandsFor slot.name) → Arrangement slots repeats members →
      Arrangement slots (slot.name :: repeats) ((t, v) :: members)
  | reordered {repeats : List String} {members members' : List (Chars × Json)} :
      members.Perm members' → Arrangement slots repeats members →
      Arrangement slots repeats members'

/-- The objects of a record. -/
def RecordForm (slots : List Slot) (repeats : List String) (j : Json) : Prop :=
  ∃ members, j = .object members none ∧ Arrangement slots repeats members

/-- Items for the members of a list, one for each. -/
inductive Items {α : Type} (form : α → List String → Json → Prop) :
    List α → List String → List Json → Prop
  | nil : Items form [] [] []
  | cons {a : α} {as : List α} {v : Json} {inner repeats : List String} {items : List Json} :
      form a inner v → Items form as repeats items →
      Items form (a :: as) (inner ++ repeats) (v :: items)

/-- Items as they are printed. -/
theorem items_map {α : Type} {form : α → List String → Json → Prop} {write : α → Json}
    (h : ∀ a, form a [] (write a)) (as : List α) : Items form as [] (as.map write) := by
  induction as with
  | nil => exact .nil
  | cons a more ih => exact .cons (h a) ih

/-- The arrays of a list. -/
def ListForm {α : Type} (form : α → List String → Json → Prop) (as : List α)
    (repeats : List String) (j : Json) : Prop :=
  ∃ items, j = .array items none ∧ Items form as repeats items

/-! ### How reading ends -/

/-- What reading gives where the given names are repeated: the value if there are none, and else a
complaint about one of them. -/
def Settles {α : Type} (repeats : List String) (a : α) (x : Read α) : Prop :=
  (repeats = [] ∧ x = .ok a) ∨ ∃ name ∈ repeats, x = .error (.duplicate name)

/-- Where no names are repeated the value is read. -/
theorem Settles.eq_ok {α : Type} {a : α} {x : Read α} (h : Settles [] a x) : x = .ok a :=
  h.elim And.right fun ⟨_, hname, _⟩ => absurd hname List.not_mem_nil

/-- What is made of a value settles as the value does. -/
theorem Settles.bind {α β : Type} {repeats : List String} {a : α} {b : β} {x : Read α}
    {next : α → Read β} (h : Settles repeats a x) (hnext : repeats = [] → next a = .ok b) :
    Settles repeats b (x >>= next) := by
  rcases h with ⟨hnone, rfl⟩ | ⟨name, hname, rfl⟩
  · exact .inl ⟨hnone, hnext hnone⟩
  · exact .inr ⟨name, hname, rfl⟩

/-- A list is read from the left. -/
theorem settles_readItems {α : Type} {form : α → List String → Json → Prop} {read : Json → Read α}
    {as : List α} {repeats : List String} {items : List Json} (h : Items form as repeats items)
    (hproper : ∀ v ∈ items, v.Proper)
    (hread : ∀ a repeats v, v.Proper → form a repeats v → Settles repeats a (read v)) :
    Settles repeats as (readItems read items) := by
  induction h with
  | nil => exact .inl ⟨rfl, rfl⟩
  | cons hform _ ih =>
      obtain ⟨hv, hitems⟩ := List.forall_mem_cons.mp hproper
      rcases hread _ _ _ hv hform with ⟨rfl, hok⟩ | ⟨name, hname, herror⟩
      · rcases ih hitems with ⟨rfl, hmore⟩ | ⟨name, hname, hmore⟩
        · exact .inl ⟨rfl, by rw [readItems, hok, hmore]; rfl⟩
        · exact .inr ⟨name, hname, by rw [readItems, hok, hmore]; rfl⟩
      · exact .inr ⟨name, List.mem_append_left _ hname, by rw [readItems, herror]; rfl⟩

/-- **A list settles** if its items do. -/
theorem settles_readList {α : Type} {form : α → List String → Json → Prop} {read : Json → Read α}
    {as : List α} {repeats : List String} {j : Json} (h : ListForm form as repeats j)
    (hproper : j.Proper)
    (hread : ∀ a repeats v, v.Proper → form a repeats v → Settles repeats a (read v)) :
    Settles repeats as (readList read j) := by
  obtain ⟨items, rfl, hitems⟩ := h
  cases hproper with
  | array hproper => exact (settles_readItems hitems hproper hread).bind fun _ => rfl

/-! ### Fields and slots -/

/-- A field checks what a slot is about. -/
structure FieldRule.Serves (field : FieldRule) (slot : Slot) : Prop where
  name : field.name = slot.name
  form : ∀ repeats v, v.Proper → slot.form repeats v → Settles repeats () (field.check v)
  readable : ∀ v, slot.readable v → field.check v = .ok ()

/-- **A field serves a slot** with a value: it reads the documents of the slot as the value, and
takes the value for granted where the slot may be left out. -/
structure FieldSpec.Serves {α : Type} (f : FieldSpec α) (a : α) (slot : Slot) : Prop where
  name : f.name = slot.name
  form : ∀ repeats v, v.Proper → slot.form repeats v → Settles repeats a (f.read v)
  readable : ∀ v, slot.readable v → ∃ b, f.read v = .ok b
  omittable : slot.omittable → f.default = some a

/-- A field that serves a slot does so by its rule. -/
theorem FieldSpec.Serves.rule {α : Type} {f : FieldSpec α} {a : α} {slot : Slot}
    (h : f.Serves a slot) : f.rule.Serves slot where
  name := h.name
  form repeats v hv hform := by
    have hcheck : f.rule.check v = f.read v >>= fun _ => .ok () := by
      change (f.read v).map _ = _
      cases f.read v <;> rfl
    rw [hcheck]
    exact (h.form repeats v hv hform).bind fun _ => rfl
  readable v hv := by
    obtain ⟨b, hb⟩ := h.readable v hv
    change (f.read v).map (fun _ => ()) = .ok ()
    rw [hb]
    rfl

/-! ### What a record keeps of arranged members -/

namespace Record

variable {fields : List FieldRule} {slots : List Slot} {repeats : List String}
  {members : List (Chars × Json)}

/-- The names in what a record keeps of members. -/
def keptNames (fields : List FieldRule) (members : List (Chars × Json)) : List String :=
  (entries fields members).map Prod.fst

/-- A record keeps a document of a slot, in which the given names are repeated. -/
def Tells (fields : List FieldRule) (members : List (Chars × Json)) (slot : Slot)
    (inner : List String) : Prop :=
  ∃ v, (slot.name, v) ∈ entries fields members ∧ v.Proper ∧ slot.form inner v

/-- A document that is kept of some members is kept of more of them. -/
theorem Tells.of_subset {members' : List (Chars × Json)} {slot : Slot} {inner : List String}
    (h : Tells fields members slot inner)
    (hsub : entries fields members ⊆ entries fields members') : Tells fields members' slot inner :=
  h.imp fun _ hmore => hmore.imp_left fun hv => hsub hv

/-- **What a record keeps of arranged members**, in whichever order they come. -/
structure Keeps (fields : List FieldRule) (slots : List Slot) (repeats : List String)
    (members : List (Chars × Json)) : Prop where
  passes : ∀ m ∈ members, Passes fields repeats m
  /-- What is met twice is among the repeated names. -/
  twice : ∀ name, List.Duplicate name (keptNames fields members) → name ∈ repeats
  /-- Every slot has its value, or is left out. -/
  told : ∀ slot ∈ slots, (∃ inner ⊆ repeats, Tells fields members slot inner) ∨
    slot.omittable ∧ slot.name ∉ keptNames fields members
  /-- If there are repeated names, one of them is met. -/
  met : repeats = [] ∨ (∃ name, List.Duplicate name (keptNames fields members)) ∨
    ∃ slot ∈ slots, ∃ inner ≠ [], Tells fields members slot inner

/-- Fields that serve slots have their names. -/
theorem map_name_of_serves (h : List.Forall₂ FieldRule.Serves fields slots) :
    fields.map FieldRule.name = slots.map Slot.name := by
  induction h with
  | nil => rfl
  | cons hserves _ ih => rw [List.map_cons, List.map_cons, hserves.name, ih]

/-- A member of a known name is kept. -/
theorem keptNames_cons_of_mem {t : Chars} {name : String} (ht : readChars t = .ok name)
    (hname : name ∈ fields.map FieldRule.name) (v : Json) (members : List (Chars × Json)) :
    keptNames fields ((t, v) :: members) = name :: keptNames fields members :=
  congrArg (List.map Prod.fst) (entries_cons_of_mem ht hname v members)

namespace Keeps

/-- One more member, for a slot of which nothing has been kept. -/
theorem given (h : Keeps fields slots repeats members) {slot : Slot} {field : FieldRule}
    (hfield : field ∈ fields) (hslot : field.Serves slot)
    (hnew : slot.name ∉ keptNames fields members) (hslots : slot.name ∉ slots.map Slot.name)
    {t : Chars} {v : Json} {inner : List String} (ht : t.StandsFor slot.name) (hv : v.Proper)
    (hform : slot.form inner v) :
    Keeps fields (slot :: slots) (inner ++ repeats) ((t, v) :: members) := by
  have hmem : slot.name ∈ fields.map FieldRule.name := hslot.name ▸ List.mem_map_of_mem hfield
  have hkept := keptNames_cons_of_mem ht.readChars_eq hmem v members
  have hentries := entries_cons_of_mem ht.readChars_eq hmem v members
  have hsub : entries fields members ⊆ entries fields ((t, v) :: members) :=
    hentries ▸ List.subset_cons_self _ _
  have htells : Tells fields ((t, v) :: members) slot inner :=
    ⟨v, hentries ▸ List.mem_cons_self, hv, hform⟩
  -- The four fields of `Keeps`, for the new member or slot and for the ones that were there.
  refine ⟨List.forall_mem_cons.mpr ⟨?_, fun m hm => ?_⟩, fun name hdup => ?_,
    List.forall_mem_cons.mpr ⟨?_, fun other hother => ?_⟩, ?_⟩
  · refine .known hfield (hslot.name ▸ ht.readChars_eq) ?_
    exact (hslot.form inner v hv hform).imp And.right fun ⟨name, hname, herror⟩ =>
      ⟨name, List.mem_append_left _ hname, herror⟩
  · exact (h.passes m hm).mono (List.subset_append_right _ _)
  · rcases List.duplicate_cons_iff.mp (hkept ▸ hdup) with ⟨rfl, hold⟩ | hdup
    · exact absurd hold hnew
    · exact List.mem_append_right _ (h.twice name hdup)
  · exact .inl ⟨inner, List.subset_append_left _ _, htells⟩
  · rcases h.told other hother with ⟨more, hmore, htold⟩ | ⟨homit, hmissing⟩
    · have hmore : more ⊆ inner ++ repeats := List.subset_append_of_subset_right _ hmore
      exact .inl ⟨more, hmore, htold.of_subset hsub⟩
    · have hne : other.name ≠ slot.name := fun heq =>
        hslots (heq ▸ List.mem_map_of_mem hother)
      exact .inr ⟨homit, hkept ▸ List.not_mem_cons_of_ne_of_not_mem hne hmissing⟩
  · by_cases hinner : inner = []
    · subst hinner
      refine h.met.imp id (Or.imp ?_ ?_)
      · rintro ⟨name, hdup⟩
        exact ⟨name, hkept ▸ hdup.duplicate_cons slot.name⟩
      · rintro ⟨other, hother, more, hmore, htold⟩
        exact ⟨other, List.mem_cons_of_mem _ hother, more, hmore, htold.of_subset hsub⟩
    · exact .inr (.inr ⟨slot, List.mem_cons_self, inner, hinner, htells⟩)

/-- One more slot, of which nothing has been kept because it may be left out. -/
theorem omitted (h : Keeps fields slots repeats members) {slot : Slot} (homit : slot.omittable)
    (hnew : slot.name ∉ keptNames fields members) :
    Keeps fields (slot :: slots) repeats members where
  passes := h.passes
  twice := h.twice
  told := List.forall_mem_cons.mpr ⟨.inr ⟨homit, hnew⟩, h.told⟩
  met := h.met.imp id (Or.imp id fun ⟨slot, hslot, hmore⟩ =>
    ⟨slot, List.mem_cons_of_mem _ hslot, hmore⟩)

/-- One more member that no slot asks for. -/
theorem unknown (h : Keeps fields slots repeats members) {t : Chars} {name : String} {v : Json}
    (ht : t.StandsFor name) (hname : name ∉ fields.map FieldRule.name) (hv : v.Proper) :
    Keeps fields slots repeats ((t, v) :: members) := by
  have hentries : entries fields ((t, v) :: members) = entries fields members :=
    entries_cons_of_notMem ht.readChars_eq hname v members
  have hkept : keptNames fields ((t, v) :: members) = keptNames fields members :=
    congrArg (List.map Prod.fst) hentries
  have htells : Tells fields ((t, v) :: members) = Tells fields members := by
    funext slot inner
    rw [Tells, hentries, Tells]
  refine ⟨List.forall_mem_cons.mpr ⟨?_, h.passes⟩, hkept ▸ h.twice, ?_, ?_⟩
  · exact .unknown ht.readChars_eq hname hv.firstFault_eq_none
  · rw [htells, hkept]
    exact h.told
  · rw [htells, hkept]
    exact h.met

/-- One more member for a slot of which a value has been kept. -/
theorem repeated (h : Keeps fields slots repeats members) {slot : Slot} {field : FieldRule}
    (hfield : field ∈ fields) (hslot : field.Serves slot)
    (hold : slot.name ∈ keptNames fields members) {t : Chars} {v : Json}
    (ht : t.StandsFor slot.name) (hv : slot.readable v) :
    Keeps fields slots (slot.name :: repeats) ((t, v) :: members) := by
  have hmem : slot.name ∈ fields.map FieldRule.name := hslot.name ▸ List.mem_map_of_mem hfield
  have hkept := keptNames_cons_of_mem ht.readChars_eq hmem v members
  have hsub : entries fields members ⊆ entries fields ((t, v) :: members) :=
    entries_cons_of_mem ht.readChars_eq hmem v members ▸ List.subset_cons_self _ _
  refine ⟨List.forall_mem_cons.mpr ⟨?_, fun m hm => ?_⟩, fun name hdup => ?_,
    fun other hother => ?_, .inr (.inl ⟨slot.name, hkept ▸ .cons_mem hold⟩)⟩
  · exact .known hfield (hslot.name ▸ ht.readChars_eq) (.inl (hslot.readable v hv))
  · exact (h.passes m hm).mono (List.subset_cons_self _ _)
  · rcases List.duplicate_cons_iff.mp (hkept ▸ hdup) with ⟨rfl, -⟩ | hdup
    · exact List.mem_cons_self
    · exact List.mem_cons_of_mem _ (h.twice name hdup)
  · rcases h.told other hother with ⟨inner, hinner, htold⟩ | ⟨homit, hmissing⟩
    · exact .inl ⟨inner, List.subset_cons_of_subset _ hinner, htold.of_subset hsub⟩
    · have hne : other.name ≠ slot.name := fun heq => hmissing (heq ▸ hold)
      exact .inr ⟨homit, hkept ▸ List.not_mem_cons_of_ne_of_not_mem hne hmissing⟩

/-- The order of members does not matter. -/
theorem reordered (h : Keeps fields slots repeats members) {members' : List (Chars × Json)}
    (hperm : members.Perm members') : Keeps fields slots repeats members' := by
  have hentries : (entries fields members).Perm (entries fields members') := hperm.filterMap _
  have hkept : (keptNames fields members).Perm (keptNames fields members') := hentries.map _
  have htells : ∀ {slot inner}, Tells fields members slot inner →
      Tells fields members' slot inner := fun htold => htold.of_subset hentries.subset
  refine ⟨fun m hm => h.passes m (hperm.mem_iff.mpr hm), fun name hdup => ?_,
    fun slot hslot => ?_, ?_⟩
  · exact h.twice name ((duplicate_iff_of_perm hkept).mpr hdup)
  · exact (h.told slot hslot).imp (fun ⟨inner, hinner, htold⟩ => ⟨inner, hinner, htells htold⟩)
      fun ⟨homit, hmissing⟩ => ⟨homit, hkept.mem_iff.not.mp hmissing⟩
  · exact h.met.imp id <| Or.imp (fun ⟨name, hdup⟩ => ⟨name, (duplicate_iff_of_perm hkept).mp hdup⟩)
      fun ⟨slot, hslot, inner, hinner, htold⟩ => ⟨slot, hslot, inner, hinner, htells htold⟩

/-- Going through the members settles on what is kept of them. -/
theorem settles_scanMembers (h : Keeps fields slots repeats members)
    (hserves : List.Forall₂ FieldRule.Serves fields slots)
    (hfields : (fields.map FieldRule.name).Nodup) :
    Settles repeats (entries fields members).reverse (scanMembers fields [] members) := by
  have hnil : (([] : List (String × Json)).map Prod.fst).Nodup := List.nodup_nil
  have htwice : ∀ name, List.Duplicate name ((entries fields members ++ []).map Prod.fst) →
      name ∈ repeats := by
    rw [List.append_nil]
    exact h.twice
  rcases scanMembers_cases hfields h.passes hnil htwice with hscans | hrefused
  · have hdistinct : (keptNames fields members).Nodup := by
      have hdistinct := hscans.distinct
      rwa [List.append_nil] at hdistinct
    refine .inl ⟨?_, hscans.scan.trans (congrArg _ (List.append_nil _))⟩
    -- A repeated name would have been met among those kept or inside one of the values.
    rcases h.met with hnone | ⟨name, hdup⟩ | ⟨slot, hslot, inner, hinner, v, hv, hproper, hform⟩
    · exact hnone
    · exact absurd hdistinct hdup.not_nodup
    · obtain ⟨field, hfield, hserve⟩ := exists_of_forall₂ hserves hslot
      have hcheck := hscans.checked field hfield v (hserve.name ▸ hv)
      rcases hserve.form inner v hproper hform with ⟨hnil, -⟩ | ⟨name, -, herror⟩
      · exact absurd hnil hinner
      · exact absurd (hcheck.symm.trans herror) nofun
  · exact .inr hrefused

/-- Where nothing is repeated, a field finds the value that its slot is about. -/
theorem get_eq (h : Keeps fields slots [] members) {slot : Slot} (hslot : slot ∈ slots) {α : Type}
    {f : FieldSpec α} {a : α} (hserve : f.Serves a slot) :
    f.get (entries fields members).reverse = .ok a := by
  have hnodup : ((entries fields members).reverse.map Prod.fst).Nodup := by
    rw [List.map_reverse, List.nodup_reverse, List.nodup_iff_forall_not_duplicate]
    exact fun name hdup => List.not_mem_nil (h.twice name hdup)
  rcases h.told slot hslot with ⟨inner, hinner, v, hv, hproper, hform⟩ | ⟨homit, hmissing⟩
  · obtain rfl : inner = [] := List.subset_nil.mp hinner
    have hread := (hserve.form [] v hproper hform).eq_ok
    exact FieldSpec.get_of_mem hnodup (List.mem_reverse.mpr (hserve.name ▸ hv)) hread
  · refine FieldSpec.get_of_notMem (fun hmem => hmissing ?_) (hserve.omittable homit)
    rw [List.map_reverse, List.mem_reverse, hserve.name] at hmem
    exact hmem

end Keeps

/-- A record keeps members that fill its slots in order, and their names stay in order. -/
theorem keeps_of_fills (h : Fills slots repeats members)
    (hserves : ∀ slot ∈ slots, ∃ field ∈ fields, field.Serves slot)
    (hnames : (slots.map Slot.name).Nodup) (hproper : ∀ m ∈ members, m.2.Proper) :
    Keeps fields slots repeats members ∧
      (keptNames fields members).Sublist (slots.map Slot.name) := by
  induction h with
  | nil => exact ⟨⟨nofun, nofun, nofun, .inl rfl⟩, List.nil_sublist _⟩
  | @given slot slots t v inner repeats members ht hform _ ih =>
      obtain ⟨⟨field, hfield, hslot⟩, hslots⟩ := List.forall_mem_cons.mp hserves
      obtain ⟨hname, hnames⟩ := List.nodup_cons.mp hnames
      obtain ⟨hv, hmembers⟩ := List.forall_mem_cons.mp hproper
      obtain ⟨hkeeps, hsublist⟩ := ih hslots hnames hmembers
      have hnew : slot.name ∉ keptNames _ members := fun hmem => hname (hsublist.mem hmem)
      refine ⟨hkeeps.given hfield hslot hnew hname ht hv hform, ?_⟩
      rw [keptNames_cons_of_mem ht.readChars_eq (hslot.name ▸ List.mem_map_of_mem hfield)]
      exact hsublist.cons_cons slot.name
  | @omitted slot slots repeats members homit _ ih =>
      obtain ⟨-, hslots⟩ := List.forall_mem_cons.mp hserves
      obtain ⟨hname, hnames⟩ := List.nodup_cons.mp hnames
      obtain ⟨hkeeps, hsublist⟩ := ih hslots hnames hproper
      exact ⟨hkeeps.omitted homit fun hmem => hname (hsublist.mem hmem), hsublist.cons slot.name⟩

/-- A record keeps members that fill its slots in any arrangement. -/
theorem keeps_of_arrangement (h : Arrangement slots repeats members)
    (hserves : List.Forall₂ FieldRule.Serves fields slots) (hnames : (slots.map Slot.name).Nodup)
    (hproper : ∀ m ∈ members, m.2.Proper) : Keeps fields slots repeats members := by
  have hsame := map_name_of_serves hserves
  induction h with
  | inOrder hfills =>
      have hfields := fun slot (hslot : slot ∈ slots) => exists_of_forall₂ hserves hslot
      exact (keeps_of_fills hfills hfields hnames hproper).1
  | unknown ht hname _ ih =>
      obtain ⟨hv, hmembers⟩ := List.forall_mem_cons.mp hproper
      exact (ih hmembers).unknown ht (hsame ▸ hname) hv
  | @repeated repeats members slot t v hslot ht hv hold _ ih =>
      obtain ⟨field, hfield, hserve⟩ := exists_of_forall₂ hserves hslot
      obtain ⟨-, hmembers⟩ := List.forall_mem_cons.mp hproper
      obtain ⟨m, hm, hname⟩ := hold
      have hentry : kept? fields m = some (slot.name, m.2) :=
        kept?_of_mem hname.readChars_eq (hsame ▸ List.mem_map_of_mem hslot)
      have hkept : slot.name ∈ keptNames fields members :=
        List.mem_map.mpr ⟨_, List.mem_filterMap.mpr ⟨m, hm, hentry⟩, rfl⟩
      exact (ih hmembers).repeated hfield hserve hkept ht hv
  | reordered hperm _ ih =>
      exact (ih fun m hm => hproper m (hperm.mem_iff.mp hm)).reordered hperm

/-- **A record settles** in any arrangement of its members, and where nothing is repeated every
field finds its own value. -/
theorem settles_contents (origin : Origin) (hserves : List.Forall₂ FieldRule.Serves fields slots)
    (hnames : (slots.map Slot.name).Nodup) {j : Json} (h : RecordForm slots repeats j)
    (hproper : j.Proper) :
    ∃ found, Settles repeats found (contents origin fields j) ∧
      ∀ {α : Type} {f : FieldSpec α} {a : α} {slot : Slot}, repeats = [] → slot ∈ slots →
        f.Serves a slot → f.get found = .ok a := by
  obtain ⟨members, rfl, harranged⟩ := h
  cases hproper with
  | object _ hvalues =>
      have hkeeps := keeps_of_arrangement harranged hserves hnames hvalues
      have hfields : (fields.map FieldRule.name).Nodup := map_name_of_serves hserves ▸ hnames
      refine ⟨(entries fields members).reverse, ?_, fun hnone hslot hserve => ?_⟩
      · exact (hkeeps.settles_scanMembers hserves hfields).bind fun _ => rfl
      · exact (hnone ▸ hkeeps).get_eq hslot hserve

end Record

end Json

end GpuLedger
