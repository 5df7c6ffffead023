import GpuLedger.Ledger
import GpuLedger.Proofs.Entries
import Mathlib.Algebra.Order.Sub.Basic
import Mathlib.Data.Multiset.OrderedMonoid

/-!
# Returns

The **dues** of a workload are the entries that its annotations say it holds, container by
container and device by device, up to the first container whose annotations cannot be used
(`Workload.dues`). They depend on the workload and on the quota of the node only. Releasing a
workload is giving back its dues one after the other, followed by the fault in its annotations
if there is one (`Ledger.release_eq`), so what a release does is known from what giving back a
list of entries does (`Ledger.returnAll`).

## Main results

* `Ledger.release_eq` — releasing is giving back the dues;
* `Ledger.returnAll_of_holds` — entries that are held are given back, all of them;
* `Ledger.release_invariant` — what giving back one held entry keeps is kept by a release, also
  by one that is stopped.
-/

namespace GpuLedger

/-! ### Dues -/

namespace Workload

/-- What the containers of a workload hold from an index on, and the first fault in their
annotations, at which the entries end. -/
def duesFrom (quota : Quantity) (w : Workload) :
    Nat → List Container → List Entry × Option Error
  | _, [] => ([], none)
  | index, c :: rest =>
    if c.RequestsGpu then
      match w.devicesOf index c with
      | .error e => ([], some e)
      | .ok ids =>
        match w.request index c with
        | .error e => ([], some e)
        | .ok r =>
          let more := duesFrom quota w (index + 1) rest
          (ids.map (⟨·, r.amount quota⟩) ++ more.1, more.2)
    else
      duesFrom quota w (index + 1) rest

/-- What a workload holds by its annotations, on a node with that quota. -/
def dues (quota : Quantity) (w : Workload) : List Entry × Option Error :=
  w.duesFrom quota 0 w.containers

end Workload

/-! ### Entries that are held -/

namespace Node

/-- All of several entries are held, an amount as often as there are entries of it. -/
def Holds (es : List Entry) (n : Node) : Prop :=
  ∀ id, Entry.on id es ≤ n.held id

/-- A node holds a single entry exactly if the amount is held under the number. -/
theorem holds_singleton_iff {e : Entry} {n : Node} :
    n.Holds [e] ↔ e.amount ∈ n.held e.device := by
  constructor
  · intro h
    have hle := h e.device
    rwa [Entry.on_singleton_self, Multiset.singleton_le] at hle
  · intro h id
    by_cases hid : e.device = id
    · subst hid
      rwa [Entry.on_singleton_self, Multiset.singleton_le]
    · rw [Entry.on_coe, Entry.amountsOn_cons_of_ne hid]
      exact Multiset.zero_le _

/-- The first entry is held, and the others are once it has been taken away. -/
theorem holds_cons_iff {e : Entry} {es : List Entry} {n : Node} :
    n.Holds (e :: es) ↔ e.amount ∈ n.held e.device ∧ (n.unpost e).Holds es := by
  constructor
  · intro h
    have hfirst : n.Holds [e] := fun id => by
      have hle := h id
      rw [Entry.on_cons] at hle
      exact (Multiset.le_add_right _ _).trans hle
    refine ⟨holds_singleton_iff.mp hfirst, fun id => ?_⟩
    rw [held_unpost]
    refine le_tsub_of_add_le_left ?_
    rw [← Entry.on_cons]
    exact h id
  · rintro ⟨hmem, hrest⟩ id
    have hle := hrest id
    rw [held_unpost] at hle
    rw [Entry.on_cons]
    exact (le_tsub_iff_left (holds_singleton_iff.mpr hmem id)).mp hle

end Node

/-! ### Giving back entries -/

/-- An operation followed by a fault that ends it, if there is one. -/
def Outcome.followedBy {σ ε : Type} (fault : Option ε) (o : Outcome σ ε Unit) :
    Outcome σ ε Unit :=
  match o.result with
  | .ok () => ⟨o.state, fault.elim (.ok ()) .error⟩
  | .error e => ⟨o.state, .error e⟩

namespace Outcome

variable {σ ε : Type} {fault : Option ε} {o : Outcome σ ε Unit}

/-- The fault that ends an operation leaves its state alone. -/
theorem state_followedBy (fault : Option ε) (o : Outcome σ ε Unit) :
    (o.followedBy fault).state = o.state := by
  rw [followedBy]
  split <;> rfl

/-- An operation followed by a fault succeeds exactly if it does and there is no fault. -/
theorem followedBy_eq_ok_iff :
    (o.followedBy fault).result = .ok () ↔ o.result = .ok () ∧ fault = none := by
  obtain ⟨s, e | _⟩ := o
  · simp [followedBy]
  · cases fault <;> simp [followedBy]

/-- It fails where the operation fails, and otherwise by the fault. -/
theorem followedBy_eq_error {e : ε} (h : (o.followedBy fault).result = .error e) :
    o.result = .error e ∨ o.result = .ok () ∧ fault = some e := by
  obtain ⟨s, err | _⟩ := o
  · exact .inl h
  · cases fault with
    | none => cases h
    | some f => exact .inr ⟨rfl, congrArg some (Except.error.inj h)⟩

end Outcome

namespace Ledger

/-- Gives back several entries in turn. The first that is not held ends it. -/
def returnAll : List Entry → Ledger → Outcome Ledger Error Unit
  | [], l => ⟨l, .ok ()⟩
  | e :: rest, l =>
    match l.unbook e.device e.amount with
    | .ok next => returnAll rest next
    | .error err => ⟨l, .error err⟩

/-- An entry that is held is taken away. -/
theorem unbook_eq_ok {l : Ledger} {e : Entry} (h : e.amount ∈ l.node.held e.device) :
    l.unbook e.device e.amount = .ok { l with node := l.node.unpost e } := by
  rw [unbook, Node.unbook_eq_ok h]
  rfl

/-- Only an entry that is held is given back, and then it is taken away. -/
theorem unpost_of_unbook {l next : Ledger} {e : Entry}
    (h : l.unbook e.device e.amount = .ok next) :
    e.amount ∈ l.node.held e.device ∧ next = { l with node := l.node.unpost e } := by
  by_cases hmem : e.amount ∈ l.node.held e.device
  · rw [unbook_eq_ok hmem] at h
    exact ⟨hmem, (Except.ok.inj h).symm⟩
  · obtain ⟨err, herr⟩ := Node.unbook_eq_error hmem
    rw [unbook, herr] at h
    cases h

/-- Giving back one list after another stops where the first list stops. -/
theorem returnAll_append (es fs : List Entry) (l : Ledger) :
    returnAll (es ++ fs) l =
      match returnAll es l with
      | ⟨next, .ok ()⟩ => returnAll fs next
      | ⟨next, .error e⟩ => ⟨next, .error e⟩ := by
  induction es generalizing l with
  | nil => rfl
  | cons e rest ih =>
      rw [List.cons_append, returnAll, returnAll]
      cases l.unbook e.device e.amount with
      | error err => rfl
      | ok next => exact ih next

/-- One amount given back on several devices is a list of entries given back. -/
theorem unbookAll_eq_returnAll (a : Amount) (ids : List DeviceId) (l : Ledger) :
    unbookAll a ids l = returnAll (ids.map (⟨·, a⟩)) l := by
  induction ids generalizing l with
  | nil => rfl
  | cons id rest ih =>
      rw [unbookAll, List.map_cons, returnAll]
      cases l.unbook id a with
      | error err => rfl
      | ok next => exact ih next

/-- What giving back one held entry keeps is kept by giving back several, as far as it goes. -/
theorem returnAll_invariant {I : Node → Prop}
    (hstep : ∀ n e, e.amount ∈ n.held e.device → I n → I (n.unpost e)) {es : List Entry}
    {l : Ledger} (hI : I l.node) : I (returnAll es l).state.node := by
  induction es generalizing l with
  | nil => exact hI
  | cons e rest ih =>
      rw [returnAll]
      cases h : l.unbook e.device e.amount with
      | error err => exact hI
      | ok next =>
          obtain ⟨hmem, rfl⟩ := unpost_of_unbook h
          exact ih (hstep _ _ hmem hI)

/-- The quota of a node does not depend on what is given back. -/
theorem quota_returnAll (es : List Entry) (l : Ledger) :
    (returnAll es l).state.node.quota = l.node.quota :=
  returnAll_invariant (I := fun n => n.quota = l.node.quota) (fun _ _ _ h => h) rfl

/-- **Entries that are held are given back**, all of them. -/
theorem returnAll_of_holds {es : List Entry} {l : Ledger} (h : l.node.Holds es) :
    returnAll es l = ⟨{ l with node := l.node.unpostAll es }, .ok ()⟩ := by
  induction es generalizing l with
  | nil => rfl
  | cons e rest ih =>
      obtain ⟨hmem, hrest⟩ := Node.holds_cons_iff.mp h
      rw [returnAll, unbook_eq_ok hmem, Node.unpostAll_cons]
      exact ih hrest

/-! ### Releasing -/

/-- **Releasing containers** is giving back what they are due, entry by entry, up to the first one
that is due nothing because of a fault. -/
theorem releaseFrom_eq (w : Workload) (index : Nat) (cs : List Container) (l : Ledger) :
    releaseFrom w index cs l =
      (returnAll (w.duesFrom l.node.quota index cs).1 l).followedBy
        (w.duesFrom l.node.quota index cs).2 := by
  induction cs generalizing index l with
  | nil => rfl
  | cons c rest ih =>
      rw [releaseFrom, Workload.duesFrom]
      by_cases hgpu : c.RequestsGpu
      · rw [if_pos hgpu, if_pos hgpu, releaseOne]
        cases w.devicesOf index c with
        | error e => rfl
        | ok ids =>
            cases w.request index c with
            | error e => rfl
            | ok r =>
                have hquota := quota_returnAll (ids.map (⟨·, r.amount l.node.quota⟩)) l
                simp only [unbookAll_eq_returnAll, returnAll_append]
                rcases hret : returnAll (ids.map (⟨·, r.amount l.node.quota⟩)) l with
                  ⟨next, e | _⟩
                · rfl
                · rw [hret] at hquota
                  simp only [ih, hquota]
      · rw [if_neg hgpu, if_neg hgpu]
        exact ih (index + 1) l

/-- **Releasing is giving back the dues**, followed by the fault in the annotations. -/
theorem release_eq (w : Workload) (l : Ledger) :
    release w l = (returnAll (w.dues l.node.quota).1 l).followedBy (w.dues l.node.quota).2 :=
  releaseFrom_eq w 0 w.containers l

/-- What giving back one held entry keeps is kept by a release, also by one that is stopped. -/
theorem release_invariant {I : Node → Prop}
    (hstep : ∀ n e, e.amount ∈ n.held e.device → I n → I (n.unpost e)) {w : Workload}
    {l : Ledger} (hI : I l.node) : I (release w l).state.node := by
  rw [release_eq, Outcome.state_followedBy]
  exact returnAll_invariant hstep hI

/-- A workload without a fault in its annotations is released by giving back what is due. -/
theorem release_eq_returnAll {w : Workload} {l : Ledger} {es : List Entry}
    (hdues : w.dues l.node.quota = (es, none)) : release w l = returnAll es l := by
  rw [release_eq, hdues, Outcome.followedBy]
  rcases returnAll es l with ⟨next, e | _⟩ <;> rfl

/-- A workload whose dues are held is released. -/
theorem release_of_holds {w : Workload} {l : Ledger} {es : List Entry}
    (hdues : w.dues l.node.quota = (es, none)) (h : l.node.Holds es) :
    release w l = ⟨{ l with node := l.node.unpostAll es }, .ok ()⟩ := by
  rw [release_eq_returnAll hdues, returnAll_of_holds h]

end Ledger

end GpuLedger
