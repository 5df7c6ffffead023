/-!
# TOML documents

A TOML document is a table of values by name. A table can be written in several places of a
document, and whether a further place may add to it depends on how it came about
(`Toml.Opening`): a table is opened by a header once, a header may stand after those of tables
inside it, and a table that grows by dotted names only grows by them. Everything else that comes
twice is refused (`extend?`, `assign?`, `openTable?`, `openElement?`).

Numbers with a fraction and moments in time serve no setting. Only their form is checked, and
their values are not kept.
-/

namespace GpuLedger

namespace Toml

/-- How a table came about. -/
inductive Opening where
  /-- By its own header. -/
  | header
  /-- By the header of a table inside it. -/
  | path
  /-- By dotted names. -/
  | dotted
  /-- In one piece, as a value. -/
  | inline
deriving DecidableEq

end Toml

/-- A value of a TOML document. -/
inductive Toml where
  | string (s : String)
  | bool (b : Bool)
  | integer (n : Int)
  | fraction
  | moment
  | list (items : List Toml)
  | table (opening : Toml.Opening) (entries : List (String × Toml))
  /-- Tables opened by headers of one name, the last of them first. -/
  | elements (tables : List (List (String × Toml)))

namespace Toml

/-- Values by name. -/
abbrev Entries := List (String × Toml)

/-- The value of a name. -/
def lookup (name : String) : Entries → Option Toml
  | [] => none
  | (k, v) :: rest => if k = name then some v else lookup name rest

/-- Sets the value of a name that has one, or adds it. -/
def update (name : String) (value : Toml) : Entries → Entries
  | [] => [(name, value)]
  | (k, v) :: rest => if k = name then (k, value) :: rest else (k, v) :: update name value rest

/-- Changes the table at a path. Tables on the way that are not there are opened as given. A
path does not lead through values, and a path of dotted names not through tables with a header of
their own; through elements it leads into the last one. -/
def extend? (how : Opening) (change : Opening → Entries → Option Entries) :
    List String → Opening → Entries → Option Entries
  | [], opening, entries => change opening entries
  | name :: path, _, entries =>
    match lookup name entries with
    | none => do
      let inside ← extend? how change path how []
      return update name (.table how inside) entries
    | some (.table .inline _) => none
    | some (.table opening inside) =>
      if how = .dotted ∧ opening = .header then none
      else do
        let changed ← extend? how change path opening inside
        return update name (.table opening changed) entries
    | some (.elements (last :: before)) => do
      let changed ← extend? how change path .header last
      return update name (.elements (changed :: before)) entries
    | some _ => none

/-- Gives a name of a table a value, by a dotted name or a plain one. -/
def assign? (path : List String) (name : String) (value : Toml) :
    Opening → Entries → Option Entries :=
  extend? .dotted
    (fun opening entries =>
      if opening = .dotted ↔ path = [] then none
      else
        match lookup name entries with
        | none => some (update name value entries)
        | some _ => none)
    path

/-- Opens a table by its header. -/
def openTable? (path : List String) (name : String) : Entries → Option Entries :=
  extend? .path
    (fun _ entries =>
      match lookup name entries with
      | none => some (update name (.table .header []) entries)
      | some (.table .path inside) => some (update name (.table .header inside) entries)
      | some _ => none)
    path .header

/-- Opens a further element of a name by its header. -/
def openElement? (path : List String) (name : String) : Entries → Option Entries :=
  extend? .path
    (fun _ entries =>
      match lookup name entries with
      | none => some (update name (.elements [[]]) entries)
      | some (.elements tables) => some (update name (.elements ([] :: tables)) entries)
      | some _ => none)
    path .header

/-- Gives a name a value in the table that was opened last, which lies at a path. -/
def assignIn? (header : List String) (path : List String) (name : String) (value : Toml) :
    Entries → Option Entries :=
  extend? .path (assign? path name value) header .header

end Toml

end GpuLedger
