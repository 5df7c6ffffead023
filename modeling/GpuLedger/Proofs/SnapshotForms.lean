import GpuLedger.Proofs.Json.Arrangements
import GpuLedger.Snapshot.Node

/-!
# Snapshots in Any Form

The snapshot of a node need not look like the one that is printed. This module lays down which
documents stand for a node (`Node.Form`), and for the devices and bookings inside it: at each of the
three levels the members may come in any order, unknown ones may stand among them, and what is zero
or empty by default may be missing. The names of members are given here once more and in full, so
that the fields by which snapshots are read are held against them.

Every document comes with the names of the members that are repeated in it, at whatever level. If
there are none, it is read as the node; otherwise it is refused because of one of them. Since a
document is seen through every text of it (`GpuLedger.Json.Written`), so is every text.

## Main results

* `Booking.settles_ofJson`, `Device.settles_ofJson`, `Node.settles_ofJson` — documents;
* `node_snapshots_read_in_any_layout` — texts.
-/

namespace GpuLedger

namespace Json

/-- A quantity is to be given as a natural number. -/
def Slot.quantity (name : String) (q : Quantity) (omittable : Prop) : Slot where
  name := name
  form repeats v := repeats = [] ∧ v = .ofNat q.toNat
  readable v := ∃ r, readQuantity v = .ok r
  omittable := omittable

/-- A text is to be given as a literal that stands for it. -/
def Slot.text (name s : String) : Slot where
  name := name
  form repeats v := repeats = [] ∧ ∃ t, v = .string t ∧ t.StandsFor s
  readable v := ∃ r, readString v = .ok r
  omittable := False

/-- A list is to be given as an array of documents of its members. -/
def Slot.list {α : Type} (name : String) (read : Json → Read α)
    (form : α → List String → Json → Prop) (as : List α) (omittable : Prop) : Slot where
  name := name
  form := ListForm form as
  readable v := ∃ bs, readList read v = .ok bs
  omittable := omittable

/-- One more quantity, as it is printed. -/
theorem Fills.quantity {name : String} {q : Quantity} {omittable : Prop} {slots : List Slot}
    {repeats : List String} {members : List (Chars × Json)} (h : Fills slots repeats members) :
    Fills (.quantity name q omittable :: slots) repeats
      ((.ofString name, .ofNat q.toNat) :: members) :=
  .cons (Chars.standsFor_ofString name) ⟨rfl, rfl⟩ h

/-- One more list, as it is printed. -/
theorem Fills.list {α : Type} {name : String} {read : Json → Read α} {write : α → Json}
    {form : α → List String → Json → Prop} (hform : ∀ a, form a [] (write a)) {as : List α}
    {omittable : Prop} {slots : List Slot} {repeats : List String}
    {members : List (Chars × Json)} (h : Fills slots repeats members) :
    Fills (.list name read form as omittable :: slots) repeats
      ((.ofString name, .ofList (as.map write)) :: members) :=
  .cons (Chars.standsFor_ofString name) ⟨_, rfl, items_map hform as⟩ h

/-- A field that reads a quantity serves the slot of a quantity. -/
theorem FieldSpec.serves_quantity {f : FieldSpec Quantity} {q : Quantity} {omittable : Prop}
    (hread : f.read = readQuantity) (hdefault : omittable → f.default = some q) :
    f.Serves q (.quantity f.name q omittable) where
  name := rfl
  form _ _ _ := by
    rintro ⟨rfl, rfl⟩
    exact .inl ⟨rfl, hread ▸ readQuantity_ofNat q⟩
  readable _ h := hread ▸ h
  omittable := hdefault

/-- A field that reads a text serves the slot of a text. -/
theorem FieldSpec.serves_text {f : FieldSpec String} {s : String} (hread : f.read = readString) :
    f.Serves s (.text f.name s) where
  name := rfl
  form _ _ _ := by
    rintro ⟨rfl, t, rfl, ht⟩
    exact .inl ⟨rfl, hread ▸ ht.readChars_eq⟩
  readable _ h := hread ▸ h
  omittable := False.elim

/-- A field that reads a list serves the slot of a list whose items are settled one by one. -/
theorem FieldSpec.serves_list {α : Type} {f : FieldSpec (List α)} {read : Json → Read α}
    {form : α → List String → Json → Prop} {as : List α} {omittable : Prop}
    (hread : f.read = readList read)
    (hsettles : ∀ a repeats v, v.Proper → form a repeats v → Settles repeats a (read v))
    (hdefault : omittable → f.default = some as) :
    f.Serves as (.list f.name read form as omittable) where
  name := rfl
  form _ _ hproper hform := hread ▸ settles_readList hform hproper hsettles
  readable _ h := hread ▸ h
  omittable := hdefault

end Json

open Json (FieldRule FieldSpec Slot Settles)

/-! ### Bookings -/

namespace Booking

/-- What an object says of a booking. -/
def slots (b : Booking) : List Slot :=
  [.quantity "vcore" b.amount.vcore False,
   .quantity "vmemory" b.amount.vmemory False,
   .quantity "estimated_time" b.amount.estimatedTime False,
   .quantity "elapsed" b.elapsed (b.elapsed = 0)]

/-- The documents of a booking. -/
def Form (b : Booking) : List String → Json → Prop :=
  Json.RecordForm b.slots

/-- What is printed for a booking is one of its documents. -/
theorem form_toJson (b : Booking) : b.Form [] b.toJson :=
  ⟨_, rfl, .inOrder <| .quantity <| .quantity <| .quantity <| .quantity .nil⟩

/-- **A booking** is read from each of its documents. -/
theorem settles_ofJson (b : Booking) (repeats : List String) (j : Json) (hj : j.Proper)
    (h : b.Form repeats j) : Settles repeats b (ofJson .text j) := by
  have hvcore : vcoreField.Serves b.amount.vcore (.quantity "vcore" _ False) :=
    FieldSpec.serves_quantity rfl False.elim
  have hvmemory : vmemoryField.Serves b.amount.vmemory (.quantity "vmemory" _ False) :=
    FieldSpec.serves_quantity rfl False.elim
  have htime : estimatedTimeField.Serves b.amount.estimatedTime
      (.quantity "estimated_time" _ False) := FieldSpec.serves_quantity rfl False.elim
  have helapsed : elapsedField.Serves b.elapsed (.quantity "elapsed" _ (b.elapsed = 0)) :=
    FieldSpec.serves_quantity rfl fun hnew => congrArg some hnew.symm
  have hserves : List.Forall₂ FieldRule.Serves fields b.slots :=
    .cons hvcore.rule <| .cons hvmemory.rule <| .cons htime.rule <| .cons helapsed.rule .nil
  have hnames : (b.slots.map Slot.name).Nodup := by
    change ["vcore", "vmemory", "estimated_time", "elapsed"].Nodup
    decide
  obtain ⟨found, hfound, hget⟩ := Json.Record.settles_contents .text hserves hnames h hj
  refine hfound.bind fun hnone => ?_
  simp only [bind, Except.bind, pure, Except.pure, hget hnone (by simp [slots]) hvcore,
    hget hnone (by simp [slots]) hvmemory, hget hnone (by simp [slots]) htime,
    hget hnone (by simp [slots]) helapsed]

end Booking

/-! ### Devices -/

/-- The number of a device is to be given as a natural number. -/
def DeviceId.slot (id : DeviceId) : Slot where
  name := "id"
  form repeats v := repeats = [] ∧ v = .ofNat id.toNat
  readable v := ∃ other, ofJson v = .ok other
  omittable := False

/-- The number of a device is read as it was written. -/
theorem DeviceId.ofJson_ofNat (id : DeviceId) : DeviceId.ofJson (.ofNat id.toNat) = .ok id := by
  have hbound : id.toNat ≤ UInt32.size - 1 := Nat.le_sub_one_of_lt id.toNat_lt
  rw [DeviceId.ofJson, Json.readNat_ofNat hbound]
  exact congrArg Except.ok UInt32.ofNat_toNat

namespace Device

/-- The number of a device is read from the slot for it. -/
theorem idField_serves (id : DeviceId) : idField.Serves id id.slot where
  name := rfl
  form _ _ _ := by
    rintro ⟨rfl, rfl⟩
    exact .inl ⟨rfl, id.ofJson_ofNat⟩
  readable _ h := h
  omittable := False.elim

/-- What an object says of a device. -/
def slots (d : Device) : List Slot :=
  [d.id.slot,
   .quantity "total_cores" d.totalCores False,
   .quantity "total_memory" d.totalMemory False,
   .quantity "used_cores" d.usedCores (d.usedCores = 0),
   .quantity "used_memory" d.usedMemory (d.usedMemory = 0),
   .list "bookings" (Booking.ofJson .text) Booking.Form d.bookings (d.bookings = [])]

/-- The documents of a device. -/
def Form (d : Device) : List String → Json → Prop :=
  Json.RecordForm d.slots

/-- What is printed for a device is one of its documents. -/
theorem form_toJson (d : Device) : d.Form [] d.toJson :=
  ⟨_, rfl, .inOrder <| .cons (Json.Chars.standsFor_ofString "id") ⟨rfl, rfl⟩ <|
    .quantity <| .quantity <| .quantity <| .quantity <| .list Booking.form_toJson .nil⟩

/-- **A device** is read from each of its documents. -/
theorem settles_ofJson (d : Device) (repeats : List String) (j : Json) (hj : j.Proper)
    (h : d.Form repeats j) : Settles repeats d (ofJson .text j) := by
  have hid : idField.Serves d.id d.id.slot := idField_serves d.id
  have hcores : totalCoresField.Serves d.totalCores (.quantity "total_cores" _ False) :=
    FieldSpec.serves_quantity rfl False.elim
  have hmemory : totalMemoryField.Serves d.totalMemory (.quantity "total_memory" _ False) :=
    FieldSpec.serves_quantity rfl False.elim
  have husedCores : usedCoresField.Serves d.usedCores
      (.quantity "used_cores" _ (d.usedCores = 0)) :=
    FieldSpec.serves_quantity rfl fun hzero => congrArg some hzero.symm
  have husedMemory : usedMemoryField.Serves d.usedMemory
      (.quantity "used_memory" _ (d.usedMemory = 0)) :=
    FieldSpec.serves_quantity rfl fun hzero => congrArg some hzero.symm
  have hbookings : (bookingsField .text).Serves d.bookings
      (.list "bookings" (Booking.ofJson .text) Booking.Form _ (d.bookings = [])) :=
    FieldSpec.serves_list rfl Booking.settles_ofJson fun hempty => congrArg some hempty.symm
  have hserves : List.Forall₂ FieldRule.Serves (fields .text) d.slots :=
    .cons hid.rule <| .cons hcores.rule <| .cons hmemory.rule <| .cons husedCores.rule <|
    .cons husedMemory.rule <| .cons hbookings.rule .nil
  have hnames : (d.slots.map Slot.name).Nodup := by
    change ["id", "total_cores", "total_memory", "used_cores", "used_memory", "bookings"].Nodup
    decide
  obtain ⟨found, hfound, hget⟩ := Json.Record.settles_contents .text hserves hnames h hj
  refine hfound.bind fun hnone => ?_
  simp only [bind, Except.bind, pure, Except.pure, hget hnone (by simp [slots]) hid,
    hget hnone (by simp [slots]) hcores, hget hnone (by simp [slots]) hmemory,
    hget hnone (by simp [slots]) husedCores, hget hnone (by simp [slots]) husedMemory,
    hget hnone (by simp [slots]) hbookings]

end Device

/-! ### Nodes -/

namespace Node

/-- What an object says of a node. -/
def slots (n : Node) : List Slot :=
  [.text "name" n.name,
   .quantity "total_memory" n.totalMemory False,
   .quantity "device_count" n.deviceCount False,
   .list "devices" (Device.ofJson .text) Device.Form n.devices False]

/-- The documents of a node. -/
def Form (n : Node) : List String → Json → Prop :=
  Json.RecordForm n.slots

/-- What is printed for a node is one of its documents. -/
theorem form_toJson (n : Node) : n.Form [] n.toJson :=
  have hstands := Json.Chars.standsFor_ofString
  ⟨_, rfl, .inOrder <| .cons (hstands "name") ⟨rfl, _, rfl, hstands n.name⟩ <|
    .quantity <| .quantity <| .list Device.form_toJson .nil⟩

/-- **A node** is read from each of its documents. -/
theorem settles_ofJson (n : Node) (repeats : List String) (j : Json) (hj : j.Proper)
    (h : n.Form repeats j) : Settles repeats n (ofJson .text j) := by
  have hname : nameField.Serves n.name (.text "name" _) := FieldSpec.serves_text rfl
  have hmemory : totalMemoryField.Serves n.totalMemory (.quantity "total_memory" _ False) :=
    FieldSpec.serves_quantity rfl False.elim
  have hcount : deviceCountField.Serves n.deviceCount (.quantity "device_count" _ False) :=
    FieldSpec.serves_quantity rfl False.elim
  have hdevices : (devicesField .text).Serves n.devices
      (.list "devices" (Device.ofJson .text) Device.Form _ False) :=
    FieldSpec.serves_list rfl Device.settles_ofJson False.elim
  have hserves : List.Forall₂ FieldRule.Serves (fields .text) n.slots :=
    .cons hname.rule <| .cons hmemory.rule <| .cons hcount.rule <| .cons hdevices.rule .nil
  have hnames : (n.slots.map Slot.name).Nodup := by
    change ["name", "total_memory", "device_count", "devices"].Nodup
    decide
  obtain ⟨found, hfound, hget⟩ := Json.Record.settles_contents .text hserves hnames h hj
  refine hfound.bind fun hnone => ?_
  simp only [bind, Except.bind, pure, Except.pure, hget hnone (by simp [slots]) hname,
    hget hnone (by simp [slots]) hmemory, hget hnone (by simp [slots]) hcount,
    hget hnone (by simp [slots]) hdevices]

end Node

/-- **The layout of a snapshot does not matter.** Take any text of any document of a node, with any
white space, and at the node and every device and booking with the members in any order, members of
any unknown names with any values among them, and any members left out that have their default
value. If no known member is repeated, the text is read as the node. If some are, at whatever level
and with whatever values that can be read, it is refused because of one of them. -/
theorem node_snapshots_read_in_any_layout {n : Node} {repeats : List String} {j : Json}
    {text : String} (hform : n.Form repeats j) (htext : j.Written text.toList) :
    (repeats = [] → Node.parse text = .ok n) ∧
    (repeats ≠ [] → ∃ name ∈ repeats, Node.parse text = .error (.duplicate name)) := by
  have hsettles := n.settles_ofJson repeats j htext.proper hform
  rw [← Json.Written.readText_eq (Node.ofJson .text) htext] at hsettles
  rcases hsettles with ⟨hnone, hok⟩ | ⟨name, hname, herror⟩
  · exact ⟨fun _ => hok, fun hsome => absurd hnone hsome⟩
  · exact ⟨fun hnone => absurd (hnone ▸ hname) List.not_mem_nil, fun _ => ⟨name, hname, herror⟩⟩

/-- A node with one booking. The members of its records come in the reverse order, what is zero is
left out, and two members have the unknown name "note", one of them with half of a character for its
value. Then the number of the device is repeated. -/
theorem node_snapshots_read_in_any_layout_reversed :
    let b : Booking := ⟨⟨10, 0, 5⟩, 0⟩
    let d : Device :=
      { id := 3, totalCores := 100, totalMemory := 16, usedCores := 10, bookings := [b] }
    let n : Node := ⟨"n", 16, 1, [d]⟩
    let text (again : String) : String :=
      "\n\x7b\"note\":\"\\ud800\",\"devices\":[\x7b" ++ again ++
        "\"bookings\":[\x7b\"estimated_time\":5,\"vmemory\":0,\"vcore\":10\x7d]," ++
        "\"used_cores\":10,\"total_memory\":16,\"total_cores\":100,\"id\":3\x7d]," ++
        "\"device_count\":1,\"total_memory\":16,\"name\":\"n\",\"note\":null\x7d "
    Node.parse (text "") = .ok n ∧
      Node.parse (text "\"id\":7,") = .error (.duplicate "id") := by
  intro b d n text
  -- The documents, with members that are put in front of those of the device.
  let note : Json := .string ⟨[.half 0xD800], none⟩
  let booking : Json :=
    .ofMembers [("estimated_time", .ofNat 5), ("vmemory", .ofNat 0), ("vcore", .ofNat 10)]
  let device (again : List (String × Json)) : Json :=
    .ofMembers (again ++ [("bookings", .ofList [booking]), ("used_cores", .ofNat 10),
      ("total_memory", .ofNat 16), ("total_cores", .ofNat 100), ("id", .ofNat 3)])
  let node (again : List (String × Json)) : Json :=
    .ofMembers [("note", note), ("devices", .ofList [device again]), ("device_count", .ofNat 1),
      ("total_memory", .ofNat 16), ("name", .ofString "n"), ("note", .null)]
  have hname : ∀ s, (Json.Chars.ofString s).StandsFor s := Json.Chars.standsFor_ofString
  have hbooking : b.Form [] booking :=
    ⟨_, rfl, .reordered (List.reverse_perm _) <| .inOrder <|
      .quantity <| .quantity <| .quantity <| .omitted rfl .nil⟩
  have hdevice : d.Form [] (device []) :=
    ⟨_, rfl, .reordered (List.reverse_perm _) <| .inOrder <|
      .cons (hname "id") ⟨rfl, rfl⟩ <| .quantity <| .quantity <| .quantity <| .omitted rfl <|
      .cons (hname "bookings") ⟨_, rfl, .cons hbooking .nil⟩ .nil⟩
  have hagain : d.Form ["id"] (device [("id", .ofNat 7)]) := by
    obtain ⟨members, hmembers, harranged⟩ := hdevice
    obtain ⟨rfl, -⟩ := Json.object.inj hmembers
    refine ⟨_, rfl, .repeated List.mem_cons_self (hname "id") ⟨7, DeviceId.ofJson_ofNat 7⟩ ?_
      harranged⟩
    exact ⟨(.ofString "id", .ofNat 3), by simp, hname "id"⟩
  have hnode : ∀ repeats again, d.Form repeats (device again) → n.Form repeats (node again) := by
    intro repeats again hv
    have hfills : Json.Fills n.slots ((repeats ++ []) ++ []) _ :=
      .cons (hname "name") ⟨rfl, _, rfl, hname "n"⟩ <| .quantity <| .quantity <|
      .given (hname "devices") ⟨_, rfl, .cons hv .nil⟩ .nil
    rw [List.append_nil, List.append_nil] at hfills
    exact ⟨_, rfl, .unknown (hname "note") (by decide) <| .reordered (List.reverse_perm _) <|
      .unknown (hname "note") (by decide) <| .inOrder hfills⟩
  have hproper : ∀ again, (∀ m ∈ again, m.2.Proper) → (node again).Proper := by
    intro again hagain
    have hnote : note.Proper := .string ⟨rfl, List.forall_mem_singleton.mpr rfl⟩
    have hbooking : booking.Proper := Json.proper_ofMembers (by simp [Json.proper_ofNat])
    have hdevice : (device again).Proper :=
      Json.proper_ofMembers <| List.forall_mem_append.mpr
        ⟨hagain, by simp [Json.proper_ofNat, Json.proper_ofList, hbooking]⟩
    exact Json.proper_ofMembers (by simp [Json.proper_ofNat, Json.proper_ofString,
      Json.proper_ofList, Json.Proper.null, hdevice, hnote])
  have htext : ∀ {j : Json}, j.Proper →
      j.Written (String.ofList (['\n'] ++ (j.compact ++ [' ']))).toList := by
    intro j hj
    rw [String.toList_ofList]
    exact .spaced (Json.isBlank_newLine 0) hj.written_compact Json.isBlank_space
  have hfirst : String.ofList (['\n'] ++ ((node []).compact ++ [' '])) = text "" := by
    decide +kernel
  have hsecond : String.ofList (['\n'] ++ ((node [("id", .ofNat 7)]).compact ++ [' ']))
      = text "\"id\":7," := by
    decide +kernel
  obtain ⟨hread, -⟩ := node_snapshots_read_in_any_layout (hnode [] _ hdevice)
    (hfirst ▸ htext (hproper [] nofun))
  obtain ⟨-, hrefused⟩ := node_snapshots_read_in_any_layout (hnode ["id"] _ hagain)
    (hsecond ▸ htext (hproper _ (List.forall_mem_singleton.mpr (Json.proper_ofNat 7))))
  obtain ⟨name, hmem, herror⟩ := hrefused (List.cons_ne_nil _ _)
  obtain rfl := List.mem_singleton.mp hmem
  exact ⟨hread rfl, herror⟩

/-- Half of a character is no name. A text of a node with one more member, whose name is only the
first half of a character, is refused, although nothing else is wrong with it. -/
theorem half_of_character_as_name_refused :
    let n : Node := ⟨"n", 16, 0, []⟩
    let half : Json.Chars := ⟨[.half 0xD800], none⟩
    let members : List (Json.Chars × Json) :=
      [(.ofString "name", .ofString "n"), (.ofString "total_memory", .ofNat 16),
        (.ofString "device_count", .ofNat 0), (.ofString "devices", .ofList [])]
    let text : String :=
      "\x7b\"\\ud800\":null,\"name\":\"n\",\"total_memory\":16,\"device_count\":0," ++
        "\"devices\":[]\x7d"
    n.Form [] (.object members none) ∧ (∀ slot ∈ n.slots, ¬ half.StandsFor slot.name) ∧
      Json.Written (.object ((half, .null) :: members) none) text.toList ∧
      Node.parse text = .error (.text .malformed) := by
  intro n half members text
  have hhalf : ∀ s, ¬ half.StandsFor s := by
    rintro s ⟨-, hstands⟩
    cases hstands
  have hproper : (Json.object ((half, .null) :: members) none).Proper := by
    refine .object (List.forall_mem_cons.mpr ⟨⟨rfl, List.forall_mem_singleton.mpr rfl⟩, ?_⟩)
      (List.forall_mem_cons.mpr ⟨.null, ?_⟩)
    · simp [members, Json.Chars.proper_ofString]
    · simp [members, Json.proper_ofString, Json.proper_ofNat, Json.proper_ofList]
  have htext : String.ofList (Json.object ((half, .null) :: members) none).compact = text := by
    decide +kernel
  have hwritten : Json.Written (.object ((half, .null) :: members) none) text.toList := by
    rw [← htext, String.toList_ofList]
    exact hproper.written_compact
  refine ⟨n.form_toJson, fun slot _ => hhalf slot.name, hwritten, ?_⟩
  rw [Node.parse, hwritten.readText_eq]
  rfl

end GpuLedger
