import GpuLedger.Proofs.SnapshotForms
import GpuLedger.Snapshot.Workload

/-!
# Snapshots Read Back

A node and a workload are read back from what is written of them, in both layouts and with every
field as it was: quantities up to the greatest, texts of any characters, maps, identifiers and
lists of any length.

What is printed for a node and for what is in it is one of the documents from which it is read
(`GpuLedger.Proofs.SnapshotForms`). A workload and its containers are written with all of their
fields in order, so for both of them it is said once that the fields take the members, and then
every field finds its value (`GpuLedger.Json.Record.exists_contents`). What contains records rests
on the records that it contains.

## Main results

* `Node.ofJson_toJson`, `Workload.ofJson_toJson` — documents;
* `Node.parse_snapshotText`, `Workload.parse_descriptorText` — the texts that are stored;
* `snapshots_read_back` — both kinds of snapshots in both layouts.
-/

namespace GpuLedger

open Json (FieldRule FieldSpec)

/-! ### Nodes -/

namespace Booking

/-- A booking is printed as a proper document. -/
theorem proper_toJson (b : Booking) : b.toJson.Proper :=
  Json.proper_ofMembers (by simp [Json.proper_ofNat])

/-- **A booking** is read as it was written. -/
theorem ofJson_toJson (b : Booking) : ofJson .text b.toJson = .ok b :=
  (b.settles_ofJson [] b.toJson b.proper_toJson b.form_toJson).eq_ok

end Booking

namespace Device

/-- A device is printed as a proper document. -/
theorem proper_toJson (d : Device) : d.toJson.Proper := by
  have hbookings : (Json.ofList (d.bookings.map Booking.toJson)).Proper :=
    Json.proper_ofList fun v hv => by
      obtain ⟨b, -, rfl⟩ := List.mem_map.mp hv
      exact b.proper_toJson
  exact Json.proper_ofMembers (by simp [Json.proper_ofNat, hbookings])

/-- **A device** is read as it was written, with its bookings. -/
theorem ofJson_toJson (d : Device) : ofJson .text d.toJson = .ok d :=
  (d.settles_ofJson [] d.toJson d.proper_toJson d.form_toJson).eq_ok

end Device

namespace Node

/-- A node is printed as a proper document. -/
theorem proper_toJson (n : Node) : n.toJson.Proper := by
  have hdevices : (Json.ofList (n.devices.map Device.toJson)).Proper :=
    Json.proper_ofList fun v hv => by
      obtain ⟨d, -, rfl⟩ := List.mem_map.mp hv
      exact d.proper_toJson
  exact Json.proper_ofMembers (by simp [Json.proper_ofString, Json.proper_ofNat, hdevices])

/-- **A node** is read as it was written, with its devices. -/
theorem ofJson_toJson (n : Node) : ofJson .text n.toJson = .ok n :=
  (n.settles_ofJson [] n.toJson n.proper_toJson n.form_toJson).eq_ok

/-- The snapshot of a node is read as the node. -/
theorem parse_snapshotText (n : Node) : parse n.snapshotText = .ok n := by
  rw [parse, snapshotText, n.proper_toJson.readText_prettyText, ofJson_toJson]

end Node

/-! ### Workloads -/

/-- A map is proper if what it maps to is. -/
theorem SortedMap.proper_toJson {α : Type} {write : α → Json} (h : ∀ a, (write a).Proper)
    (m : SortedMap α) : (m.toJson write).Proper := by
  refine Json.proper_ofMembers fun member hmember => ?_
  obtain ⟨e, -, rfl⟩ := List.mem_map.mp hmember
  exact h e.2

namespace Container

/-- **A container** is read as it was written. -/
theorem ofJson_toJson (c : Container) : ofJson .text c.toJson = .ok c := by
  have hname : nameField.read (.ofString c.name) = .ok c.name := Json.readString_ofString _
  have hresources : resourcesField.read (c.resources.toJson fun q => .ofNat q.toNat)
      = .ok c.resources := SortedMap.ofJson_toJson Json.readQuantity_ofNat _
  have hnames : (fields.map FieldRule.name).Nodup := by decide
  have htakes := List.Forall₂.cons (FieldSpec.takes hname) <|
    .cons (FieldSpec.takes hresources) .nil
  obtain ⟨contents, hcontents, hget⟩ := Json.Record.exists_contents .text hnames htakes
  rw [ofJson, toJson, hcontents]
  simp only [bind, Except.bind, pure, Except.pure,
    hget hname (by simp), hget hresources (by simp)]

/-- A container is printed as a proper document. -/
theorem proper_toJson (c : Container) : c.toJson.Proper := by
  have hresources : (c.resources.toJson fun q => .ofNat q.toNat).Proper :=
    SortedMap.proper_toJson (fun _ => Json.proper_ofNat _) _
  exact Json.proper_ofMembers (by simp [Json.proper_ofString, hresources])

end Container

namespace Workload

/-- **A workload** is read as it was written. It has an identifier, so the fresh one is not used. -/
theorem ofJson_toJson (fresh : Uuid) (w : Workload) : ofJson fresh .text w.toJson = .ok w := by
  have huid : (uidField fresh).read w.uid.toJson = .ok w.uid := w.uid.ofJson_toJson
  have hname : nameField.read (.ofString w.name) = .ok w.name := Json.readString_ofString _
  have hspace : nameSpaceField.read (.ofString w.nameSpace) = .ok w.nameSpace :=
    Json.readString_ofString _
  have hannotations : annotationsField.read (w.annotations.toJson .ofString)
      = .ok w.annotations := SortedMap.ofJson_toJson Json.readString_ofString _
  have hcontainers : (containersField .text).read (.ofList (w.containers.map Container.toJson))
      = .ok w.containers := Json.readList_ofList Container.ofJson_toJson _
  have hnames : ((fields fresh .text).map FieldRule.name).Nodup := by
    change ["uid", "name", "namespace", "annotations", "containers"].Nodup
    decide
  have htakes := List.Forall₂.cons (FieldSpec.takes huid) <|
    .cons (FieldSpec.takes hname) <| .cons (FieldSpec.takes hspace) <|
    .cons (FieldSpec.takes hannotations) <| .cons (FieldSpec.takes hcontainers) .nil
  have hsame : (uidField w.uid).name = (uidField fresh).name := rfl
  obtain ⟨contents, hcontents, hget⟩ := Json.Record.exists_contents .text hnames htakes
  rw [ofJson, toJson, hsame, hcontents]
  simp only [bind, Except.bind, pure, Except.pure,
    hget huid (by simp), hget hname (by simp), hget hspace (by simp), hget hannotations (by simp),
    hget hcontainers (by simp)]

/-- A workload is printed as a proper document. -/
theorem proper_toJson (w : Workload) : w.toJson.Proper := by
  have hcontainers : (Json.ofList (w.containers.map Container.toJson)).Proper :=
    Json.proper_ofList fun v hv => by
      obtain ⟨c, -, rfl⟩ := List.mem_map.mp hv
      exact c.proper_toJson
  have huid : w.uid.toJson.Proper := Json.proper_ofString _
  have hannotations : (w.annotations.toJson .ofString).Proper :=
    SortedMap.proper_toJson Json.proper_ofString _
  exact Json.proper_ofMembers
    (by simp [Json.proper_ofString, huid, hannotations, hcontainers])

/-- The descriptor of a workload is read as the workload. -/
theorem parse_descriptorText (fresh : Uuid) (w : Workload) :
    parse fresh w.descriptorText = .ok w := by
  rw [parse, descriptorText, w.proper_toJson.readText_prettyText, ofJson_toJson]

end Workload

/-! ### Both layouts -/

/-- **Snapshots are read back.** Whatever the fields of a node and of a workload are, the texts that
are written of them, without white space and with one value a line, are read as that node and that
workload, whichever identifier is kept ready for a workload that comes without one. -/
theorem snapshots_read_back (n : Node) (w : Workload) (fresh : Uuid) :
    Node.parse n.toJson.compactText = .ok n ∧
    Node.parse n.toJson.prettyText = .ok n ∧
    Workload.parse fresh w.toJson.compactText = .ok w ∧
    Workload.parse fresh w.toJson.prettyText = .ok w := by
  refine ⟨?_, n.parse_snapshotText, ?_, w.parse_descriptorText fresh⟩
  · rw [Node.parse, n.proper_toJson.readText_compactText, Node.ofJson_toJson]
  · rw [Workload.parse, w.proper_toJson.readText_compactText, Workload.ofJson_toJson]

end GpuLedger
