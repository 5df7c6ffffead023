import GpuLedger.Error
import GpuLedger.Selection
import GpuLedger.Toml.Document

/-!
# Settings in TOML

A configuration is written as a TOML document. Everything may be left out, and names that are
not known are passed over. A group of settings may also be written as a list of their values in
order.
-/

namespace GpuLedger

namespace Toml

/-- The settings of a group by their names. -/
def settings? (names : List String) : Toml → Option Entries
  | .table _ entries => some entries
  | .list items => some (names.zip items)
  | .elements tables => some (names.zip (tables.reverse.map (.table .header)))
  | .moment => some []
  | _ => none

/-- A setting, with its default if it is left out. -/
def setting? {α : Type} (read? : Toml → Option α) (default : α) (name : String)
    (entries : Entries) : Option α :=
  match lookup name entries with
  | none => some default
  | some v => read? v

/-- A text. -/
def asText? : Toml → Option String
  | .string s => some s
  | _ => none

/-- A truth value. -/
def asBool? : Toml → Option Bool
  | .bool b => some b
  | _ => none

/-- One of several words. It may also stand as the only name of a table with nothing in it. -/
def asWord? {α : Type} (ofName? : String → Option α) : Toml → Option α
  | .string s => ofName? s
  | .table _ [(name, .table _ [])] => ofName? name
  | .table _ [(name, .list [])] => ofName? name
  | _ => none

end Toml

/-- The policy of a group of settings. -/
def Policy.ofToml? (v : Toml) : Option Policy := do
  let entries ← Toml.settings? ["capacity_filter", "feasibility"] v
  return {
    capacityFilter := ← Toml.setting? Toml.asBool? false "capacity_filter" entries
    feasibility :=
      ← Toml.setting? (Toml.asWord? Feasibility.ofName?) .commit "feasibility" entries }

/-- The reporting of a group of settings. -/
def Logging.ofToml? (v : Toml) : Option Logging := do
  let entries ← Toml.settings? ["level", "format"] v
  return {
    level := ← Toml.setting? Toml.asText? "info" "level" entries
    format := ← Toml.setting? Toml.asText? "text" "format" entries }

/-- The configuration of a document. -/
def Config.ofToml? (v : Toml) : Option Config := do
  let entries ← Toml.settings? ["scheduler", "logging"] v
  return {
    policy := ← Toml.setting? Policy.ofToml? {} "scheduler" entries
    logging := ← Toml.setting? Logging.ofToml? {} "logging" entries }

/-- Reads settings from a text. -/
def Toml.parse? {α : Type} (ofToml? : Toml → Option α) (text : String) : Option α := do
  ofToml? (.table .header (← Toml.document? text.toList))

/-- Reads a configuration from a text. -/
def Config.parse (text : String) : Except Error Config :=
  (Toml.parse? Config.ofToml? text).elim (.error (.config "Failed to parse config")) .ok

end GpuLedger
