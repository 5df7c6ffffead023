import GpuLedger.Json.Printer
import GpuLedger.Json.Record
import GpuLedger.Selection

/-!
# Configurations as JSON

The JSON forms of configurations and their parts. Every field may be left out.
-/

namespace GpuLedger

open Json (FieldSpec Origin Read)

namespace Policy

/-- Whether devices too full for a request are left out; they are not unless it says so. -/
def capacityFilterField : FieldSpec Bool :=
  { name := "capacity_filter", read := Json.readBool, default := some false }

/-- How questions are answered, by a word; by committing unless it says otherwise. -/
def feasibilityField (origin : Origin) : FieldSpec Feasibility :=
  { name := "feasibility",
    read := Json.readWord origin Feasibility.ofName?,
    default := some .commit }

/-- The fields of a policy in order. -/
def fields (origin : Origin) : List Json.FieldRule :=
  [capacityFilterField.rule, (feasibilityField origin).rule]

/-- Reads a policy. -/
def ofJson (origin : Origin) (j : Json) : Read Policy := do
  let contents ← Json.Record.contents origin (fields origin) j
  return {
    capacityFilter := ← capacityFilterField.get contents
    feasibility := ← (feasibilityField origin).get contents }

/-- The form of a policy. -/
def toJson (p : Policy) : Json :=
  .ofMembers [
    (capacityFilterField.name, .bool p.capacityFilter),
    ((feasibilityField .text).name, .ofString p.feasibility.name)]

end Policy

namespace Logging

/-- The weight from which events are reported, as it is written. -/
def levelField : FieldSpec String :=
  { name := "level", read := Json.readString, default := some "info" }

/-- The format of the report, as it is written. -/
def formatField : FieldSpec String :=
  { name := "format", read := Json.readString, default := some "text" }

/-- The fields of the reporting in order. -/
def fields : List Json.FieldRule :=
  [levelField.rule, formatField.rule]

/-- Reads how proceedings are reported. -/
def ofJson (origin : Origin) (j : Json) : Read Logging := do
  let contents ← Json.Record.contents origin fields j
  return {
    level := ← levelField.get contents
    format := ← formatField.get contents }

/-- The form of how proceedings are reported. -/
def toJson (l : Logging) : Json :=
  .ofMembers [(levelField.name, .ofString l.level), (formatField.name, .ofString l.format)]

end Logging

namespace Config

/-- The group of settings of the policy. -/
def policyField (origin : Origin) : FieldSpec Policy :=
  { name := "scheduler", read := Policy.ofJson origin, default := some {} }

/-- The group of settings of the reporting. -/
def loggingField (origin : Origin) : FieldSpec Logging :=
  { name := "logging", read := Logging.ofJson origin, default := some {} }

/-- The fields of a configuration in order. -/
def fields (origin : Origin) : List Json.FieldRule :=
  [(policyField origin).rule, (loggingField origin).rule]

/-- Reads a configuration. -/
def ofJson (origin : Origin) (j : Json) : Read Config := do
  let contents ← Json.Record.contents origin (fields origin) j
  return {
    policy := ← (policyField origin).get contents
    logging := ← (loggingField origin).get contents }

/-- The form of a configuration. -/
def toJson (c : Config) : Json :=
  .ofMembers [
    ((policyField .text).name, c.policy.toJson),
    ((loggingField .text).name, c.logging.toJson)]

end Config

end GpuLedger
