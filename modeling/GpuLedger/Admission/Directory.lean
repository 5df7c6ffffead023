import GpuLedger.SortedMap
import GpuLedger.Text

/-!
# Directories

A directory holds files by their paths, which lead through folders by slashes. Only what can be
seen from the directory is described: a path that leads out of it ends at a folder or nowhere.
A file is a text or it is not; what a file that is no text contains makes no difference.
-/

namespace GpuLedger.Admission

/-- What a file contains. -/
inductive Content where
  | text (s : String)
  | binary
deriving DecidableEq

/-- Why there is no text at a path. -/
inductive Unreadable where
  /-- There is nothing at the path. -/
  | missing
  /-- There is a folder at the path. -/
  | folder
  /-- The path leads through a file. -/
  | throughFile
  /-- The file is no text. -/
  | binary
  /-- Anything else that keeps a file from being read. -/
  | other (reason : String)
deriving DecidableEq

/-- The wording of a reason why there is no text at a path. -/
def Unreadable.message : Unreadable → String
  | missing => "No such file or directory (os error 2)"
  | folder => "Is a directory (os error 21)"
  | throughFile => "Not a directory (os error 20)"
  | binary => "stream did not contain valid UTF-8"
  | other reason => reason

/-- Files by their paths. -/
structure Directory where
  files : SortedMap Content := .empty
deriving DecidableEq

namespace Directory

/-- The parts of a path. -/
abbrev Parts := List (List Char)

/-- The path of parts. -/
def join (parts : Parts) : String := String.ofList (['/'].intercalate parts)

/-- Whether there is a file at a path. -/
def IsFile (d : Directory) (parts : Parts) : Prop :=
  (d.files.get? (join parts)).isSome

instance (d : Directory) (parts : Parts) : Decidable (d.IsFile parts) :=
  inferInstanceAs (Decidable (_ = true))

/-- Whether there is a folder at a path: the directory itself, or one that a file lies in. -/
def IsFolder (d : Directory) (parts : Parts) : Prop :=
  parts = [] ∨ ∃ path ∈ d.files.keys, ['/'].intercalate (parts ++ [[]]) <+: path.toList

instance (d : Directory) (parts : Parts) : Decidable (d.IsFolder parts) :=
  inferInstanceAs (Decidable (_ ∨ _))

/-- A part that stays where it is. -/
def staysHere (part : List Char) : Bool := part = [] || part = ['.']

/-- What lies outside of the directory at the end of some parts. -/
def outside (parts : Parts) : Unreadable :=
  if parts.all fun p => staysHere p || p = ['.', '.'] then .folder else .missing

/-- Follows parts from a place in the directory on. -/
def walk (d : Directory) : Parts → Parts → Except Unreadable Parts
  | here, [] => .ok here
  | here, part :: rest =>
    if d.IsFile here then .error .throughFile
    else if ¬ d.IsFolder here then .error .missing
    else if staysHere part then walk d here rest
    else if part = ['.', '.'] then
      if here = [] then .error (outside rest) else walk d here.dropLast rest
    else walk d (here ++ [part]) rest

/-- The path under which the directory holds the file that a path leads to. -/
def resolve (d : Directory) (path : String) : Except Unreadable String :=
  let parts := Text.pieces '/' path.toList
  if path.toList.head? = some '/' then .error (outside parts)
  else
    match d.walk [] parts with
    | .error e => .error e
    | .ok here =>
      if d.IsFile here then .ok (join here)
      else if d.IsFolder here then .error .folder
      else .error .missing

/-- The text at a path. -/
def read (d : Directory) (path : String) : Except Unreadable String :=
  match d.resolve path with
  | .error e => .error e
  | .ok file =>
    match d.files.get? file with
    | some (.text s) => .ok s
    | some .binary => .error .binary
    | none => .error .missing

/-- Puts a text into the file at a path, if there is one. -/
def write (d : Directory) (path text : String) : Directory :=
  match d.resolve path with
  | .ok file => { files := d.files.insert file (.text text) }
  | .error _ => d

end Directory

end GpuLedger.Admission
