import HomeKit.Proofs.Accessory.Writes
import HomeKit.Proofs.Connection.Credentials

/-!
# Who is told to close

A connection can be told to close while messages may be queued for it. Of a list of connections
everyone is told who can be, and nobody else (`Connections.outbox?_foldl_requestClose`); what was
told once stays told (`Connections.asksToClose_foldl`), and nothing that is done to keys changes who
can be told (`Registry.isAttached_modify`).
-/

namespace HomeKit

theorem Registry.isAttached_modify (registry : Registry) (conn other : ConnectionId)
    {f : Session → Session} (hf : ∀ session, (f session).isAttached = session.isAttached) :
    (registry.modify conn f).isAttached other = registry.isAttached other := by
  unfold isAttached
  rw [session?_modify]
  split
  · rename_i heq
    subst heq
    rw [Option.any_some, hf, Registry.session]
    cases registry.session? conn with
    | none => rfl
    | some session => rfl
  · rfl

theorem Registry.isAttached_attach (registry : Registry) {conn other : ConnectionId}
    (hne : conn ≠ other) : (registry.attach conn).isAttached other = registry.isAttached other := by
  unfold isAttached attach
  rw [session?_modify, if_neg hne]

theorem Registry.isAttached_stage (registry : Registry) (conn other : ConnectionId)
    (controller : String) (keys : SessionKeys) :
    (registry.stage conn controller keys).isAttached other = registry.isAttached other :=
  isAttached_modify registry conn other (f := fun session =>
    { session with controller := some controller, staged := some keys }) fun _ => rfl

theorem Registry.isAttached_activate (registry : Registry) (conn other : ConnectionId) :
    (registry.activate conn).isAttached other = registry.isAttached other := by
  unfold activate
  split
  · rename_i keys hstaged
    exact isAttached_modify registry conn other (f := fun session =>
      { session with staged := none, cipher := some { keys } }) fun _ => rfl
  · rfl

/-- The machine of pair-verify comes and goes without touching what the connection is told. -/
theorem Registry.isAttached_setPairVerify (registry : Registry) (conn other : ConnectionId)
    (machine : Option PairVerify) :
    (registry.modify conn fun session => { session with pairVerify := machine }).isAttached other =
      registry.isAttached other :=
  isAttached_modify registry conn other (f := fun session =>
    { session with pairVerify := machine }) fun _ => rfl

namespace Connections

variable {connections : Connections} {conn other : ConnectionId}

/-- The connection was told to close. -/
def AsksToClose (connections : Connections) (conn : ConnectionId) : Prop :=
  ∃ outbox, connections.outbox? conn = some outbox ∧ outbox.closeRequested = true

theorem outbox?_requestClose (connections : Connections) (conn other : ConnectionId) :
    (connections.requestClose conn).outbox? other =
      if connections.registry.isAttached conn = true ∧ conn = other then
        (connections.outbox? other).map fun outbox => { outbox with closeRequested := true }
      else connections.outbox? other := by
  unfold requestClose
  by_cases hattached : connections.registry.isAttached conn = true
  · rw [if_pos hattached, outbox?_modifyOutbox]
    simp only [hattached, true_and]
  · rw [if_neg hattached, if_neg fun h => hattached h.1]

/-- Those of a list are told to close for which messages may be queued. -/
theorem outbox?_foldl_requestClose (conns : List ConnectionId) (connections : Connections)
    (other : ConnectionId) :
    (conns.foldl requestClose connections).outbox? other =
      if other ∈ conns ∧ connections.registry.isAttached other = true then
        (connections.outbox? other).map fun outbox => { outbox with closeRequested := true }
      else connections.outbox? other := by
  induction conns generalizing connections with
  | nil => simp
  | cons conn rest ih =>
    rw [List.foldl_cons, ih, requestClose_registry, outbox?_requestClose]
    simp only [List.mem_cons]
    by_cases hattached : connections.registry.isAttached other = true
    · by_cases hfirst : conn = other
      -- to be told once more makes no difference
      · subst hfirst
        simp [hattached, Function.comp_def]
      · simp [hattached, hfirst, Ne.symm hfirst]
    · have hnot : ¬ (connections.registry.isAttached conn = true ∧ conn = other) := by
        rintro ⟨h, rfl⟩
        exact hattached h
      simp only [hattached, hnot, and_false, if_false, Bool.false_eq_true]

theorem asksToClose_foldl (h : connections.AsksToClose other) (conns : List ConnectionId) :
    (conns.foldl requestClose connections).AsksToClose other := by
  obtain ⟨outbox, houtbox, hclose⟩ := h
  unfold AsksToClose
  rw [outbox?_foldl_requestClose, houtbox]
  split
  · exact ⟨_, rfl, rfl⟩
  · exact ⟨outbox, rfl, hclose⟩

theorem isSome_outbox?_foldl (connections : Connections) (conns : List ConnectionId)
    (other : ConnectionId) :
    ((conns.foldl requestClose connections).outbox? other).isSome =
      (connections.outbox? other).isSome := by
  rw [outbox?_foldl_requestClose]
  split
  · rw [Option.isSome_map]
  · rfl

/-- Every connection of a list that can be told to close is told. -/
theorem asksToClose_of_mem {conns : List ConnectionId} (hmem : conn ∈ conns)
    (hattached : connections.registry.isAttached conn = true)
    (houtbox : (connections.outbox? conn).isSome = true) :
    (conns.foldl requestClose connections).AsksToClose conn := by
  obtain ⟨outbox, hfound⟩ := Option.isSome_iff_exists.1 houtbox
  unfold AsksToClose
  rw [outbox?_foldl_requestClose, if_pos ⟨hmem, hattached⟩, hfound]
  exact ⟨_, rfl, rfl⟩

end Connections

/-- The connections of a controller are those whose session names it. -/
theorem Registry.mem_connectionsOf_iff {registry : Registry} {conn : ConnectionId}
    {controller : String} :
    conn ∈ registry.connectionsOf controller ↔
      (registry.credentials conn).controller = some controller := by
  have hknown : conn ∈ registry.connections ↔ (registry.session? conn).isSome = true := by
    unfold connections session?
    rw [Std.ExtTreeMap.mem_keys, Std.ExtTreeMap.mem_iff_isSome_getElem?]
  unfold connectionsOf credentials Session.credentials session
  rw [List.mem_filter, hknown]
  cases registry.session? conn with
  | none => simp
  | some session => simp

end HomeKit
