/-!
# Maps sorted by name

Annotations, resources and the nodes of a fleet are maps from names to values that are listed
in the order of their names. A `SortedMap` is the list of its entries together with the fact
that the names strictly increase, so two maps with the same values are the same map. Names are
ordered by their characters, which is also the order of their UTF-8 bytes.

## Main results

`get?_insert`, `get?_erase` and `get?_map` say what a map holds after a change, and `ext_get?` that
a map is known by what it holds.
-/

namespace GpuLedger

/-- A map from names to values, listed in increasing order of the names. -/
structure SortedMap (α : Type) where
  entries : List (String × α)
  increasing : entries.Pairwise (fun x y => x.1 < y.1)

namespace SortedMap

variable {α : Type}

/-- Maps with the same entries are the same. -/
@[ext] theorem ext {m n : SortedMap α} (h : m.entries = n.entries) : m = n := by
  cases m; cases n; cases h; rfl

instance [DecidableEq α] : DecidableEq (SortedMap α) := fun m n =>
  decidable_of_iff (m.entries = n.entries) ⟨ext, fun h => h ▸ rfl⟩

/-- The map without entries. -/
def empty : SortedMap α := ⟨[], .nil⟩

instance : Inhabited (SortedMap α) := ⟨empty⟩

/-- The value in a list of entries under a name. -/
def lookup (name : String) : List (String × α) → Option α
  | [] => none
  | (k, v) :: rest => if k = name then some v else lookup name rest

/-- The value under a name. -/
def get? (m : SortedMap α) (name : String) : Option α := lookup name m.entries

/-- The names in increasing order. -/
def keys (m : SortedMap α) : List String := m.entries.map (·.1)

/-- The values in the order of their names. -/
def values (m : SortedMap α) : List α := m.entries.map (·.2)

/-! ### Insertion -/

/-- Puts an entry into its place in a sorted list, over an entry of the same name. -/
def place (name : String) (value : α) : List (String × α) → List (String × α)
  | [] => [(name, value)]
  | (k, v) :: rest =>
    if name < k then (name, value) :: (k, v) :: rest
    else if k = name then (name, value) :: rest
    else (k, v) :: place name value rest

/-- An entry of the list after an insertion is the new one or was there before. -/
theorem fst_of_mem_place {name : String} {value : α} {l : List (String × α)} {x : String × α}
    (h : x ∈ place name value l) : x.1 = name ∨ x ∈ l := by
  induction l with
  | nil => simp only [place, List.mem_singleton] at h; exact .inl (by rw [h])
  | cons e rest ih =>
    unfold place at h
    split at h
    · rcases List.mem_cons.1 h with h | h
      · exact .inl (by rw [h])
      · exact .inr h
    · split at h
      · rcases List.mem_cons.1 h with h | h
        · exact .inl (by rw [h])
        · exact .inr (List.mem_cons_of_mem _ h)
      · rcases List.mem_cons.1 h with h | h
        · exact .inr (h ▸ List.mem_cons_self)
        · exact (ih h).imp_right (List.mem_cons_of_mem _)

/-- Inserting keeps the names in order. -/
theorem pairwise_place (name : String) (value : α) {l : List (String × α)}
    (h : l.Pairwise (fun x y => x.1 < y.1)) :
    (place name value l).Pairwise (fun x y => x.1 < y.1) := by
  induction l with
  | nil => simp [place]
  | cons e rest ih =>
    obtain ⟨hhead, htail⟩ := List.pairwise_cons.1 h
    unfold place
    split
    · next hlt =>
      refine List.pairwise_cons.2 ⟨fun x hx => ?_, h⟩
      rcases List.mem_cons.1 hx with rfl | hx
      · exact hlt
      · exact String.lt_trans hlt (hhead x hx)
    · next hlt =>
      split
      · next heq =>
        subst heq
        exact List.pairwise_cons.2 ⟨hhead, htail⟩
      · next hne =>
        refine List.pairwise_cons.2 ⟨fun x hx => ?_, ih htail⟩
        rcases fst_of_mem_place hx with hx | hx
        · have hle : e.1 ≤ name := String.not_lt.1 hlt
          rw [hx]
          by_cases hlt' : e.1 < name
          · exact hlt'
          · exact absurd (String.le_antisymm hle (String.not_lt.1 hlt')) hne
        · exact hhead x hx

/-- Puts a value under a name, over the value it may hold there. -/
def insert (m : SortedMap α) (name : String) (value : α) : SortedMap α :=
  ⟨place name value m.entries, pairwise_place name value m.increasing⟩

/-- The map of a list of entries. Of two entries with one name the later one stays. -/
def ofList (l : List (String × α)) : SortedMap α :=
  l.foldl (fun m e => m.insert e.1 e.2) empty

/-- Under its name the new value is found, and under all others what was there. -/
theorem lookup_place (name : String) (value : α) (l : List (String × α)) (key : String) :
    lookup key (place name value l) = if name = key then some value else lookup key l := by
  induction l with
  | nil => simp [place, lookup]
  | cons e rest ih =>
    obtain ⟨k, v⟩ := e
    unfold place
    split
    · simp [lookup]
    · split
      · next heq => subst heq; simp only [lookup]; split <;> simp_all
      · next hne =>
        simp only [lookup, ih]
        by_cases hk : k = key
        · have hnk : name ≠ key := fun h => hne (hk.trans h.symm)
          simp [hk, hnk]
        · simp [hk]

/-- After an insertion the name holds the new value and every other name what it held. -/
theorem get?_insert (m : SortedMap α) (name : String) (value : α) (key : String) :
    (m.insert name value).get? key = if name = key then some value else m.get? key :=
  lookup_place name value m.entries key

/-! ### Removal -/

/-- Removes the entry under a name, if there is one. -/
def erase (m : SortedMap α) (name : String) : SortedMap α :=
  ⟨m.entries.filter (·.1 ≠ name), m.increasing.filter _⟩

/-- Under a name that is erased nothing is found, and under all others what was there. -/
theorem lookup_filter_ne (name : String) (l : List (String × α)) (key : String) :
    lookup key (l.filter (·.1 ≠ name)) = if name = key then none else lookup key l := by
  induction l with
  | nil => simp [lookup]
  | cons e rest ih =>
    obtain ⟨k, v⟩ := e
    by_cases hk : k = name
    · subst hk
      simp only [ne_eq, not_true_eq_false, decide_false, Bool.false_eq_true, not_false_eq_true,
        List.filter_cons_of_neg, lookup]
      rw [ih]
      split <;> rfl
    · rw [List.filter_cons_of_pos (by simpa using hk)]
      simp only [lookup, ih]
      by_cases hkk : k = key
      · have hnk : name ≠ key := fun h => hk (hkk.trans h.symm)
        simp [hkk, hnk]
      · simp [hkk]

/-- After a removal the name holds nothing and every other name what it held. -/
theorem get?_erase (m : SortedMap α) (name key : String) :
    (m.erase name).get? key = if name = key then none else m.get? key :=
  lookup_filter_ne name m.entries key

/-! ### Changing all values -/

/-- Applies a function to every value. -/
def map {β : Type} (f : α → β) (m : SortedMap α) : SortedMap β :=
  ⟨m.entries.map fun e => (e.1, f e.2), List.pairwise_map.2 m.increasing⟩

/-- Values are found changed where all of them are changed. -/
theorem lookup_map {β : Type} (f : α → β) (l : List (String × α)) (key : String) :
    lookup key (l.map fun e => (e.1, f e.2)) = (lookup key l).map f := by
  induction l with
  | nil => rfl
  | cons e rest ih =>
    simp only [List.map_cons, lookup, ih]
    split <;> rfl

/-- Every name holds the changed value. -/
theorem get?_map {β : Type} (f : α → β) (m : SortedMap α) (key : String) :
    (m.map f).get? key = (m.get? key).map f :=
  lookup_map f m.entries key

/-! ### Maps as what they hold -/

/-- Under a name that no entry has nothing is found. -/
theorem lookup_eq_none {l : List (String × α)} {key : String} (h : ∀ x ∈ l, x.1 ≠ key) :
    lookup key l = none := by
  induction l with
  | nil => rfl
  | cons e rest ih =>
    rw [lookup, if_neg (h e List.mem_cons_self)]
    exact ih fun x hx => h x (List.mem_cons_of_mem _ hx)

/-- Something is found exactly under the names of the entries. -/
theorem isSome_lookup_iff {l : List (String × α)} {key : String} :
    (lookup key l).isSome ↔ key ∈ l.map (·.1) := by
  induction l with
  | nil => simp [lookup]
  | cons e rest ih =>
    by_cases hk : e.1 = key
    · simp [lookup, hk]
    · simp [lookup, hk, Ne.symm hk, ih]

/-- The names are those that hold something. -/
theorem mem_keys_iff {m : SortedMap α} {name : String} :
    name ∈ m.keys ↔ (m.get? name).isSome :=
  isSome_lookup_iff.symm

/-- The names are listed in increasing order. -/
theorem keys_increasing (m : SortedMap α) : m.keys.Pairwise (· < ·) :=
  List.pairwise_map.2 m.increasing

/-- A name in front of all names of a list is not among them. -/
theorem lookup_eq_none_of_lt {l : List (String × α)} {key : String} (h : ∀ x ∈ l, key < x.1) :
    lookup key l = none :=
  lookup_eq_none fun x hx heq => String.lt_irrefl key (heq ▸ h x hx)

/-- Sorted lists of entries are known by what is found under each name. -/
theorem ext_lookup {l₁ l₂ : List (String × α)} (h₁ : l₁.Pairwise fun x y => x.1 < y.1)
    (h₂ : l₂.Pairwise fun x y => x.1 < y.1) (h : ∀ key, lookup key l₁ = lookup key l₂) :
    l₁ = l₂ := by
  induction l₁ generalizing l₂ with
  | nil =>
    cases l₂ with
    | nil => rfl
    | cons f rest₂ => simpa [lookup] using h f.1
  | cons e rest₁ ih =>
    obtain ⟨he, hrest₁⟩ := List.pairwise_cons.1 h₁
    cases l₂ with
    | nil => simpa [lookup] using h e.1
    | cons f rest₂ =>
      obtain ⟨hf, hrest₂⟩ := List.pairwise_cons.1 h₂
      -- The lesser of the two first names would be missing in the other list.
      have hle : ¬ e.1 < f.1 := fun hlt => by
        have hnone : lookup e.1 (f :: rest₂) = none := lookup_eq_none_of_lt fun x hx => by
          rcases List.mem_cons.1 hx with rfl | hx
          · exact hlt
          · exact String.lt_trans hlt (hf x hx)
        have hsome := h e.1
        rw [hnone, lookup, if_pos rfl] at hsome
        cases hsome
      have hge : ¬ f.1 < e.1 := fun hlt => by
        have hnone : lookup f.1 (e :: rest₁) = none := lookup_eq_none_of_lt fun x hx => by
          rcases List.mem_cons.1 hx with rfl | hx
          · exact hlt
          · exact String.lt_trans hlt (he x hx)
        have hsome := h f.1
        rw [hnone, lookup, if_pos rfl] at hsome
        cases hsome
      have hname : e.1 = f.1 := String.le_antisymm (String.not_lt.1 hge) (String.not_lt.1 hle)
      have hvalue : e.2 = f.2 := by simpa [lookup, hname] using h e.1
      have htail : ∀ key, lookup key rest₁ = lookup key rest₂ := fun key => by
        by_cases hkey : e.1 = key
        · subst hkey
          rw [lookup_eq_none_of_lt he, lookup_eq_none_of_lt fun x hx => hname ▸ hf x hx]
        · have hrest := h key
          rwa [lookup, lookup, if_neg hkey, if_neg (hname ▸ hkey)] at hrest
      rw [Prod.ext hname hvalue, ih hrest₁ hrest₂ htail]

/-- **A map is known by what it holds.** -/
theorem ext_get? {m n : SortedMap α} (h : ∀ key, m.get? key = n.get? key) : m = n :=
  ext (ext_lookup m.increasing n.increasing h)

/-- Putting a value where it is already changes nothing. -/
theorem insert_eq_self {m : SortedMap α} {name : String} {value : α}
    (h : m.get? name = some value) : m.insert name value = m := by
  refine ext_get? fun key => ?_
  rw [get?_insert]
  split
  · next heq => rw [← heq, h]
  · rfl

/-- Removing a name takes back what was put there. -/
theorem erase_insert_self (m : SortedMap α) (name : String) (value : α) :
    (m.insert name value).erase name = m.erase name := by
  refine ext_get? fun key => ?_
  rw [get?_erase, get?_erase, get?_insert]
  split <;> rfl

/-- Changes under different names do not depend on their order. -/
theorem erase_insert_of_ne {name other : String} (h : name ≠ other) (m : SortedMap α)
    (value : α) : (m.insert name value).erase other = (m.erase other).insert name value := by
  refine ext_get? fun key => ?_
  simp only [get?_erase, get?_insert]
  by_cases hother : other = key
  · simp [hother, hother ▸ h]
  · simp [hother]

/-- Erasing a name twice is erasing it once. -/
@[simp] theorem erase_erase (m : SortedMap α) (name : String) :
    (m.erase name).erase name = m.erase name := by
  refine ext_get? fun key => ?_
  simp only [get?_erase]
  split <;> rfl

end SortedMap

end GpuLedger
