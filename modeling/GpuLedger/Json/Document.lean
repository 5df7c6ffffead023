import GpuLedger.Json.Token

/-!
# Putting a text together

`Json.document` builds the document of a text from its units, one unit at a time. What has been
read of the arrays and objects around the current place is kept as a stack of frames, so a text
may be nested to any depth. Where the units do not go on as they should, everything that is open
is closed around the break (`enclose`).
-/

namespace GpuLedger.Json

/-- An array or object that has begun: what came before the current item or member, the last of
it first. -/
inductive Frame where
  | item (before : List Json)
  | member (before : List (Chars × Json)) (name : Chars)

/-- What may come next. -/
inductive Expected where
  /-- A value. Right after an opening bracket the array may end instead. -/
  | value (orEnd : Bool)
  /-- The name of a member. Right after an opening brace the object may end instead. -/
  | name (before : List (Chars × Json)) (orEnd : Bool)
  /-- The colon after a name. -/
  | colon (before : List (Chars × Json)) (name : Chars)
  /-- What follows a value, which depends on what is around it. -/
  | after (v : Json)

/-- A text put together: its value, and whether something other than white space follows. -/
structure Document where
  value : Json
  trailing : Bool := false

/-- A place in a text: what may come next there and what is open around it, or the whole text
if it has come to its end. -/
inductive Place where
  | reading (next : Expected) (around : List Frame)
  | done (d : Document)

/-- A value as the last of all that is open around it. -/
def enclose (v : Json) : List Frame → Json
  | [] => v
  | .item before :: around => enclose (.array (before.reverse ++ [v]) none) around
  | .member before name :: around =>
    enclose (.object (before.reverse ++ [(name, v)]) none) around

/-- The text breaks off with a value or a part of one. -/
def stopAt (v : Json) (around : List Frame) : Place :=
  .done { value := enclose v around }

/-- The place after the next unit. -/
def step : Expected → List Frame → Token → Place
  | .value _, around, .null => .reading (.after .null) around
  | .value _, around, .bool b => .reading (.after (.bool b)) around
  | .value _, around, .number n => .reading (.after (.number n)) around
  | .value _, around, .string t =>
    if t.stop.isSome then stopAt (.string t) around else .reading (.after (.string t)) around
  | .value _, around, .arrayStart => .reading (.value true) (.item [] :: around)
  | .value _, around, .objectStart => .reading (.name [] true) around
  | .value true, .item _ :: around, .arrayEnd => .reading (.after (.array [] none)) around
  | .value _, around, .broken b => stopAt (.broken b) around
  | .value _, around, _ => stopAt (.broken .foreign) around
  | .name before orEnd, around, t =>
    match t with
    | .string name =>
      if name.stop.isSome then stopAt (.object before.reverse (some (.name (some t)))) around
      else .reading (.colon before name) around
    | .objectEnd =>
      if orEnd then .reading (.after (.object [] none)) around
      else stopAt (.object before.reverse (some (.name (some t)))) around
    | _ => stopAt (.object before.reverse (some (.name (some t)))) around
  | .colon before name, around, .colon => .reading (.value false) (.member before name :: around)
  | .colon before name, around, _ =>
    stopAt (.broken .foreign) (.member before name :: around)
  | .after v, .item before :: around, .comma =>
    .reading (.value false) (.item (v :: before) :: around)
  | .after v, .item before :: around, .arrayEnd =>
    .reading (.after (.array (v :: before).reverse none)) around
  | .after v, .item before :: around, _ =>
    stopAt (.array (v :: before).reverse (some .malformed)) around
  | .after v, .member before name :: around, .comma =>
    .reading (.name ((name, v) :: before) false) around
  | .after v, .member before name :: around, .objectEnd =>
    .reading (.after (.object ((name, v) :: before).reverse none)) around
  | .after v, .member before name :: around, _ =>
    stopAt (.object ((name, v) :: before).reverse (some (.separator .malformed))) around
  | .after v, [], _ => .done { value := v, trailing := true }

/-- The document of a text that ends here. -/
def atEnd : Expected → List Frame → Document
  | .value _, around => { value := enclose (.broken .absent) around }
  | .name before _, around =>
    { value := enclose (.object before.reverse (some (.name none))) around }
  | .colon before name, around =>
    { value := enclose (.broken .absent) (.member before name :: around) }
  | .after v, [] => { value := v }
  | .after v, .item before :: around =>
    { value := enclose (.array (v :: before).reverse (some .truncated)) around }
  | .after v, .member before name :: around =>
    { value :=
        enclose (.object ((name, v) :: before).reverse (some (.separator .truncated))) around }

/-- The document of the units that are left, from a place on. -/
def build : Expected → List Frame → List Token → Document
  | next, around, [] => atEnd next around
  | next, around, t :: rest =>
    match step next around t with
    | .reading next' around' => build next' around' rest
    | .done d => d

/-- The document of a text. -/
def document (text : List Char) : Document :=
  build (.value false) [] (tokens text)

end GpuLedger.Json
