import HomeKit.Proofs.Connection.Closing
import HomeKit.Proofs.Connection.Subscriptions
import HomeKit.Proofs.Pairing.Changes

/-!
# Which connections an unpairing closes

A request to manage pairings can take out many controllers, or only some of those that it was to
take out when the storage fails on the way. The connections that are told to close are exactly those
whose session names a controller that is in fact gone, with its keys in use or only staged, and that
can be told; the connection of the request closes after the answer if it is one of them
(`Accessory.disconnects_unpaired`).
-/

namespace HomeKit

/-- Connections of one kind were told to close, and nothing else happened to any. -/
structure Connections.TellsExactly (chosen : ConnectionId → Prop) (before after : Connections) :
    Prop where
  registry : after.registry = before.registry
  told : ∀ conn, chosen conn → after.outbox? conn =
    (before.outbox? conn).map fun outbox => { outbox with closeRequested := true }
  others : ∀ conn, ¬ chosen conn → after.outbox? conn = before.outbox? conn

theorem Connections.tellsExactly_foldl (connections : Connections) (conns : List ConnectionId) :
    TellsExactly (fun conn => conn ∈ conns ∧ connections.registry.isAttached conn = true)
      connections (conns.foldl requestClose connections) := by
  refine ⟨?_, ?_, ?_⟩
  · exact foldl_registry (fun _ _ => requestClose_registry ..) conns connections
  · intro conn hchosen
    rw [outbox?_foldl_requestClose, if_pos hchosen]
  · intro conn hnot
    rw [outbox?_foldl_requestClose, if_neg hnot]

theorem Connections.TellsExactly.congr {chosen same : ConnectionId → Prop}
    {before after : Connections} (h : TellsExactly chosen before after)
    (hsame : ∀ conn, same conn ↔ chosen conn) : TellsExactly same before after := by
  refine ⟨h.registry, ?_, ?_⟩
  · intro conn hchosen
    exact h.told conn ((hsame conn).1 hchosen)
  · intro conn hnot
    exact h.others conn fun hchosen => hnot ((hsame conn).2 hchosen)

namespace Accessory

variable {accessory before after : Accessory} {conn other : ConnectionId} {id : String}

/-- The controller was paired, and is not any more. -/
def Unpairs (before after : Accessory) (id : String) : Prop :=
  (before.store.controller? id).isSome = true ∧ after.store.controller? id = none

/-- The session of the connection names a controller that was paired and is not any more. -/
def LosesController (before after : Accessory) (conn : ConnectionId) : Prop :=
  ∃ id, (before.credentials conn).controller = some id ∧ Unpairs before after id

theorem not_unpairs_self (accessory : Accessory) (id : String) :
    ¬ Unpairs accessory accessory id := by
  rintro ⟨hpaired, hgone⟩
  rw [hgone] at hpaired
  cases hpaired

/-- A request to manage pairings says of exactly those that they are removed whom it unpairs. -/
theorem mem_removed_iff (accessory : Accessory) (conn : ConnectionId) (body : Bytes) (id : String) :
    id ∈ (accessory.runPairings conn body).1.removed ↔
      Unpairs accessory (accessory.runPairings conn body).2 id :=
  accessory.store.mem_handlePairings_removed (accessory.registry.controllerOf conn) body id

theorem mem_targets_iff {removed : List String}
    (hremoved : ∀ id, id ∈ removed ↔ Unpairs accessory after id) :
    conn ∈ removed.flatMap accessory.registry.connectionsOf ↔
      LosesController accessory after conn := by
  rw [List.mem_flatMap]
  constructor
  · rintro ⟨id, hmem, hconn⟩
    exact ⟨id, Registry.mem_connectionsOf_iff.1 hconn, (hremoved id).1 hmem⟩
  · rintro ⟨id, hname, hunpairs⟩
    exact ⟨id, (hremoved id).2 hunpairs, Registry.mem_connectionsOf_iff.2 hname⟩

/-- What becomes of the connections when pairings are managed: the one of the request closes if it
loses its controller, and of the others those are told to that do. -/
structure Disconnects (conn : ConnectionId) (before : Accessory) (result : Routed × Accessory) :
    Prop where
  close_iff : result.1.close = true ↔ LosesController before result.2 conn
  tells : Connections.TellsExactly (fun other => other ≠ conn ∧
    before.registry.isAttached other = true ∧ LosesController before result.2 other)
      before.connections result.2.connections
  /-- If nobody is unpaired, nothing is closed. -/
  nobody : (∀ id, ¬ Unpairs before result.2 id) →
    result.1.close = false ∧ result.2.connections = before.connections

theorem pairings_disconnects (accessory : Accessory) (conn : ConnectionId) (body : Bytes) :
    Disconnects conn accessory (accessory.pairings conn body) := by
  have hremoved := accessory.mem_removed_iff conn body
  have hconnections : (accessory.runPairings conn body).2.connections = accessory.connections := rfl
  have hstore : (accessory.pairings conn body).2.store =
      (accessory.runPairings conn body).2.store := rfl
  have hunpairs : ∀ id, Unpairs accessory (accessory.pairings conn body).2 id ↔
      Unpairs accessory (accessory.runPairings conn body).2 id := by
    intro id
    unfold Unpairs
    rw [hstore]
  have htargets : ∀ other, other ∈ (accessory.runPairings conn body).1.removed.flatMap
      accessory.registry.connectionsOf ↔
        LosesController accessory (accessory.pairings conn body).2 other := by
    intro other
    refine mem_targets_iff fun id => ?_
    rw [hremoved, hunpairs]
  refine ⟨?_, ?_, ?_⟩
  · rw [← htargets, ← List.contains_iff_mem]
    rfl
  · have htells := accessory.connections.tellsExactly_foldl
      (((accessory.runPairings conn body).1.removed.flatMap
        accessory.registry.connectionsOf).filter (· != conn))
    refine htells.congr fun other => ?_
    rw [List.mem_filter, bne_iff_ne, htargets]
    constructor
    · rintro ⟨hne, hattached, hloses⟩
      exact ⟨⟨hloses, hne⟩, hattached⟩
    · rintro ⟨⟨hloses, hne⟩, hattached⟩
      exact ⟨hne, hattached, hloses⟩
  · intro hnobody
    have hnone : (accessory.runPairings conn body).1.removed = [] := by
      rw [List.eq_nil_iff_forall_not_mem]
      intro id hmem
      exact hnobody id ((hunpairs id).2 ((hremoved id).1 hmem))
    unfold pairings closeUnpaired
    simp only [hnone, hconnections]
    exact ⟨rfl, rfl⟩

theorem unchanged_disconnects (accessory : Accessory) (conn : ConnectionId)
    (response : Http.Response) : Disconnects conn accessory ({ response }, accessory) := by
  have hkeeps : ∀ other, ¬ LosesController accessory accessory other := by
    rintro other ⟨id, -, hunpairs⟩
    exact accessory.not_unpairs_self id hunpairs
  refine ⟨?_, ⟨rfl, ?_, fun _ _ => rfl⟩, fun _ => ⟨rfl, rfl⟩⟩
  · exact iff_of_false Bool.false_ne_true (hkeeps conn)
  · rintro other ⟨-, -, hloses⟩
    exact absurd hloses (hkeeps other)

/-- Whatever is asked of the pairings on an encrypted connection, and wherever the storage fails:
the connection of the request closes exactly if its session names a controller that is unpaired by
the request; of the others exactly those are told to close whose session does so and for which
messages may be queued; and nothing is closed if nobody is unpaired. -/
theorem disconnects_unpaired (suite : CipherSuite) (accessory : Accessory) (conn : ConnectionId)
    (request : Http.Request) (hpath : request.path = "/pairings")
    (hencrypted : accessory.registry.isEncrypted conn = true) :
    Disconnects conn accessory (accessory.handle suite conn request) := by
  have hendpoint : Endpoint.ofPath? request.path = some .pairings := by
    rw [hpath]
    rfl
  have hhandle : accessory.handle suite conn request =
      accessory.serve suite conn request .pairings := by
    unfold handle
    simp only [hendpoint, hencrypted, Bool.not_true, Bool.and_false, Bool.false_eq_true, if_false]
  rw [hhandle]
  unfold serve
  cases request.method with
  | get => exact accessory.unchanged_disconnects conn _
  | put => exact accessory.unchanged_disconnects conn _
  | post => exact accessory.pairings_disconnects conn request.body

/-! ## A removal that stops half way -/

/-- Keys that are all ones and twos. -/
def plainKeys : SessionKeys :=
  ⟨.replicate 32 1, .replicate 32 2⟩

/-- An admin and a guest. The guest is verified on connection 1, the admin on connection 2; on
connections 3 and 4 the keys of the admin are only staged, and nothing can be sent on connection 4
any more. The second removal from storage fails. -/
def guestAccessory : Accessory where
  store :=
    let store := ((IdentityStore.withController ⟨"admin", .replicate 32 1, .admin⟩).add
      ⟨"guest", .replicate 32 2, .regular⟩).2
    { store with storage := { store.storage with
      fails := fun kind number => kind == .delete && number == 2 } }
  random := .constant 7
  setupCode := .default
  database := .refusing
  connections := ({} : Connections).callAll .transparent
    [(1, .attach 8), (2, .attach 8), (3, .attach 8), (4, .attach 8),
      (1, .stage "guest" plainKeys), (1, .activate), (2, .stage "admin" plainKeys), (2, .activate),
      (3, .stage "admin" plainKeys), (4, .stage "admin" plainKeys), (4, .detach)]

/-- A request to remove the admin. -/
def removesAdmin : Http.Request where
  method := .post
  path := "/pairings"
  body := (Tlv.ofList [(.state, [1]), (.method, [PairingMethod.removePairing.code]),
    (.identifier, utf8 "admin")]).encode

/-- The last admin is removed, but the guest, who is to go with it, stays. -/
theorem disconnects_unpaired_admin :
    let result := guestAccessory.handle .transparent 2 removesAdmin
    removesAdmin.path = "/pairings" ∧ guestAccessory.registry.isEncrypted 2 = true ∧
      Disconnects 2 guestAccessory result ∧
      Unpairs guestAccessory result.2 "admin" ∧ ¬ Unpairs guestAccessory result.2 "guest" ∧
      result.1.close = true ∧
      [1, 2, 3, 4].map (fun conn =>
        (result.2.connections.outbox? conn).map (·.closeRequested)) =
          [some false, some false, some true, some false] := by
  have hencrypted : guestAccessory.registry.isEncrypted 2 = true := by decide +kernel
  have hdisconnects :=
    disconnects_unpaired .transparent guestAccessory 2 removesAdmin rfl hencrypted
  refine ⟨rfl, hencrypted, hdisconnects, ?_, ?_, ?_, ?_⟩
  · unfold Unpairs
    decide +kernel
  · unfold Unpairs
    decide +kernel
  · decide +kernel
  · decide +kernel

end Accessory

end HomeKit
