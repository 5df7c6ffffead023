import GpuLedger.Json.Printer
import GpuLedger.Ledger
import GpuLedger.Selection

/-!
# Journals

What happens on the way of a placement or a release is reported as events, each with a weight. A
journal lists those of at least the weight that is asked for. The events of an operation are
worked out beside the operation itself, from the same ledger by the same steps.
-/

namespace GpuLedger.Admission

/-- The weight of an event. -/
inductive Level where
  | trace
  | debug
  | info
  | warn
  | error
deriving DecidableEq

/-- Something that happened. -/
inductive Event where
  /-- A device was given its score for a shared placement. -/
  | scored
  /-- A device was chosen for a shared placement. -/
  | picked
  /-- There are not enough vacant devices for an exclusive placement. -/
  | tooFewVacant
  /-- The devices of a container were worked out. -/
  | evaluated
  /-- An amount was booked on a device. -/
  | booked
  /-- An amount could not be booked. -/
  | bookingRefused
  /-- A container could not be placed. -/
  | containerRefused
  /-- A workload was placed. -/
  | placed
  /-- An amount was given back on a device. -/
  | unbooked
  /-- What a workload held was given back. -/
  | released
  /-- The node was written back to its file. -/
  | written
deriving DecidableEq

namespace Level

/-- The word for a weight in a journal. -/
def name : Level → String
  | trace => "TRACE"
  | debug => "DEBUG"
  | info => "INFO"
  | warn => "WARN"
  | error => "ERROR"

/-- The place of a weight among the weights. -/
def rank : Level → Nat
  | trace => 0
  | debug => 1
  | info => 2
  | warn => 3
  | error => 4

/-- The weight that a word asks for, in any case. A word that stands for none asks for `info`.
Lower case is that of ASCII, since no other letter becomes one of those in the five words. -/
def ofName (word : String) : Level :=
  match (String.ofList (word.toList.map Char.toLower)) with
  | "trace" => trace
  | "debug" => debug
  | "info" => info
  | "warn" => warn
  | "error" => error
  | _ => info

end Level

namespace Event

/-- The weight of an event. -/
def level : Event → Level
  | bookingRefused | containerRefused => .warn
  | placed | released | written => .info
  | scored | picked | tooFewVacant | evaluated | booked | unbooked => .debug

/-- The wording of an event. -/
def message : Event → String
  | scored => "Scored device"
  | picked => "Picked device"
  | tooFewVacant => "Not enough idle devices"
  | evaluated => "Evaluated container"
  | booked => "Booked device resources"
  | bookingRefused => "Failed to update used resources"
  | containerRefused => "Failed to allocate container"
  | placed => "Allocated workload"
  | unbooked => "Released device resources"
  | released => "Released workload"
  | written => "Node snapshot updated"

/-! ### The events of a placement -/

/-- The events of ranking devices. -/
def ofRank (capacityFilter : Bool) (devices : List Device) (r : Request) : List Event :=
  (Share.rank capacityFilter devices r).map fun _ => scored

/-- The events of choosing the devices of a request. -/
def ofChoice (policy : Policy) (devices : List Device) (r : Request) : List Event :=
  match r.mode with
  | .share =>
    ofRank policy.capacityFilter devices r
      ++ if (Share.choose? policy.capacityFilter devices r).isSome then [picked] else []
  | .exclusive =>
    if (Exclusive.pool devices).length < r.devicesNeeded then [tooFewVacant] else []

/-- The events of booking one amount on several devices. -/
def ofBooking (a : Amount) : List DeviceId → Ledger → List Event
  | [], _ => []
  | id :: rest, l =>
    match l.book id a with
    | .ok next => booked :: ofBooking a rest next
    | .error _ => [bookingRefused]

/-- The events of placing one container. -/
def ofPlacement (policy : Policy) (w : Workload) (index : Nat) (c : Container) (l : Ledger) :
    List Event :=
  match w.request index c with
  | .error _ => []
  | .ok r =>
    ofChoice policy l.node.devices r ++ [evaluated]
      ++ ofBooking (r.amount l.node.quota)
        ((policy.choose l.node.devices r).map Device.id) l

/-- The events of placing the containers of a workload from an index on. -/
def ofPlacements (policy : Policy) (w : Workload) : Nat → List Container → Ledger → List Event
  | _, [], _ => []
  | index, c :: rest, l =>
    if c.RequestsGpu then
      ofPlacement policy w index c l ++
        match l.placeOne policy w index c with
        | ⟨next, .ok _⟩ => ofPlacements policy w (index + 1) rest next
        | ⟨_, .error _⟩ => [containerRefused]
    else
      ofPlacements policy w (index + 1) rest l

/-- The events of placing a workload to see whether it fits. -/
def ofQuestion (policy : Policy) (w : Workload) (l : Ledger) : List Event :=
  ofPlacements policy w 0 w.containers l

/-- The events of placing a workload. -/
def ofAllocation (policy : Policy) (clock : Option Int) (w : Workload) (l : Ledger) : List Event :=
  ofQuestion policy w l ++ if (l.allocate policy clock w).succeeded then [placed] else []

/-! ### The events of a release -/

/-- The events of giving back one amount on several devices. -/
def ofUnbooking (a : Amount) : List DeviceId → Ledger → List Event
  | [], _ => []
  | id :: rest, l =>
    match l.unbook id a with
    | .ok next => unbooked :: ofUnbooking a rest next
    | .error _ => []

/-- The events of giving back what the containers of a workload hold from an index on. -/
def ofReleases (w : Workload) : Nat → List Container → Ledger → List Event
  | _, [], _ => [released]
  | index, c :: rest, l =>
    if c.RequestsGpu then
      (match w.devicesOf index c, w.request index c with
        | .ok ids, .ok r => ofUnbooking (r.amount l.node.quota) ids l
        | _, _ => []) ++
        match l.releaseOne w index c with
        | ⟨next, .ok ()⟩ => ofReleases w (index + 1) rest next
        | ⟨_, .error _⟩ => []
    else
      ofReleases w (index + 1) rest l

/-- The events of giving back what a workload holds. -/
def ofRelease (w : Workload) (l : Ledger) : List Event :=
  ofReleases w 0 w.containers l

end Event

/-! ### What is listed -/

/-- The formats of a journal. -/
inductive Format where
  | text
  | json
deriving DecidableEq

/-- The word for a format. -/
def Format.name : Format → String
  | text => "text"
  | json => "json"

/-- The format that a word asks for. Only one word, as it stands, asks for `json`. -/
def Format.ofName (word : String) : Format :=
  if word = Format.json.name then json else text

/-- A list of events in a format. -/
structure Journal where
  format : Format := .text
  events : List Event := []
deriving DecidableEq

/-- The journal of what happened, as configured. A weight given apart from the configuration
takes the place of the configured one. -/
def Journal.of (logging : Logging) (level? : Option String) (events : List Event) : Journal :=
  let least := Level.ofName (level?.getD logging.level)
  ⟨Format.ofName logging.format, events.filter fun e => decide (least.rank ≤ e.level.rank)⟩

/-- The line of an event in a format. -/
def Event.line (e : Event) : Format → String
  | .text => e.level.name ++ " " ++ e.message
  | .json =>
    (Json.ofMembers [
      ("level", .ofString e.level.name),
      ("fields", .ofMembers [("message", .ofString e.message)])]).compactText

/-- The lines of a journal. -/
def Journal.lines (j : Journal) : List String :=
  j.events.map (Event.line · j.format)

end GpuLedger.Admission
