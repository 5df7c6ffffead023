import GpuLedger.Json.Printer
import GpuLedger.Json.Record
import GpuLedger.Workload

/-!
# Descriptors of workloads

The JSON forms of workloads and their containers. A workload that comes without an identifier
gets a fresh one, which the reader of the text is given for that purpose.
-/

namespace GpuLedger

open Json (FieldSpec Origin Read)

namespace SortedMap

/-- Reads a map. Of two members with one name the later one counts. -/
def ofJson {α : Type} (read : Json → Read α) (j : Json) : Read (SortedMap α) :=
  (Json.readObject read j).map SortedMap.ofList

/-- The form of a map, its members in the order of their names. -/
def toJson {α : Type} (write : α → Json) (m : SortedMap α) : Json :=
  .ofMembers (m.entries.map fun e => (e.1, write e.2))

end SortedMap

namespace Container

/-- The name of a container. -/
def nameField : FieldSpec String := { name := "name", read := Json.readString }

/-- The quantities a container asks for, none unless they are given. -/
def resourcesField : FieldSpec (SortedMap Quantity) :=
  { name := "resources", read := SortedMap.ofJson Json.readQuantity, default := some .empty }

/-- The fields of a container in order. -/
def fields : List Json.FieldRule :=
  [nameField.rule, resourcesField.rule]

/-- Reads a container. -/
def ofJson (origin : Origin) (j : Json) : Read Container := do
  let contents ← Json.Record.contents origin fields j
  return {
    name := ← nameField.get contents
    resources := ← resourcesField.get contents }

/-- The form of a container. -/
def toJson (c : Container) : Json :=
  .ofMembers [
    (nameField.name, .ofString c.name),
    (resourcesField.name, c.resources.toJson fun q => .ofNat q.toNat)]

end Container

namespace Uuid

/-- Reads an identifier. -/
def ofJson (j : Json) : Read Uuid := do
  let text ← Json.readString j
  (Uuid.read? text.toList).elim (.error .badUuid) .ok

/-- The form of an identifier. -/
def toJson (u : Uuid) : Json :=
  .ofString (String.ofList u.write)

end Uuid

namespace Workload

/-- The identifier of a workload, or the fresh one. -/
def uidField (fresh : Uuid) : FieldSpec Uuid :=
  { name := "uid", read := Uuid.ofJson, default := some fresh }

/-- The name of a workload. -/
def nameField : FieldSpec String := { name := "name", read := Json.readString }

/-- The name space of a workload, which has a default. -/
def nameSpaceField : FieldSpec String :=
  { name := "namespace", read := Json.readString, default := some "default" }

/-- The annotations of a workload, none unless they are given. -/
def annotationsField : FieldSpec (SortedMap String) :=
  { name := "annotations", read := SortedMap.ofJson Json.readString, default := some .empty }

/-- The containers of a workload, none unless they are given. -/
def containersField (origin : Origin) : FieldSpec (List Container) :=
  { name := "containers", read := Json.readList (Container.ofJson origin), default := some [] }

/-- The fields of a workload in order. -/
def fields (fresh : Uuid) (origin : Origin) : List Json.FieldRule :=
  [(uidField fresh).rule, nameField.rule, nameSpaceField.rule, annotationsField.rule,
    (containersField origin).rule]

/-- Reads a workload. -/
def ofJson (fresh : Uuid) (origin : Origin) (j : Json) : Read Workload := do
  let contents ← Json.Record.contents origin (fields fresh origin) j
  return {
    uid := ← (uidField fresh).get contents
    name := ← nameField.get contents
    nameSpace := ← nameSpaceField.get contents
    annotations := ← annotationsField.get contents
    containers := ← (containersField origin).get contents }

/-- The form of a workload. -/
def toJson (w : Workload) : Json :=
  .ofMembers [
    ((uidField w.uid).name, w.uid.toJson),
    (nameField.name, .ofString w.name),
    (nameSpaceField.name, .ofString w.nameSpace),
    (annotationsField.name, w.annotations.toJson .ofString),
    ((containersField .text).name, .ofList (w.containers.map Container.toJson))]

/-- Reads the descriptor of a workload. -/
def parse (fresh : Uuid) (text : String) : Read Workload :=
  Json.readText (Workload.ofJson fresh .text) text

/-- The descriptor of a workload, one value a line. -/
def descriptorText (w : Workload) : String :=
  w.toJson.prettyText

end Workload

end GpuLedger
