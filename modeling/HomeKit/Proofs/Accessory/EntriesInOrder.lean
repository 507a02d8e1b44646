import HomeKit.Proofs.Accessory.EntryTexts
import HomeKit.Proofs.Accessory.FailedEntries

/-!
# Entries one after another

A request to write lists entries, each of which may begin or end a subscription and give a value.
What they see and change is kept in four places: the database, the sessions, the index of
subscribers and the queues. Looked at from outside (`Accessory.writeState`) it is a database, who is
subscribed to what by each of the two tables, who takes events at all, and the queues, and an entry
is applied to these alone (`WriteState.apply`). The accessory goes the same way entry by entry
(`Accessory.applyEntry_writeState`), so a request comes to its entries from first to last
(`Accessory.written_in_order`). Events are queued as their texts, byte by byte (`eventText`), and
the answer is known in the same way (`listText`).
-/

namespace HomeKit

open Std (ExtTreeSet)

/-! ## What entries ask for -/

/-- What requests to write see of an accessory and change of it. -/
structure WriteState where
  database : AttributeDatabase
  /-- The session lists the characteristic. -/
  isSubscribed : ConnectionId → CharacteristicId → Bool
  /-- The index, by which events go, lists the connection. While the tables agree
  (`Registry.Indexed`), this is the same. -/
  isListed : ConnectionId → CharacteristicId → Bool
  /-- The connection is encrypted and attached. -/
  isListening : ConnectionId → Bool
  queue? : ConnectionId → Option Outbox

namespace WriteState

def setSubscribed (state : WriteState) (conn : ConnectionId) (id : CharacteristicId) (on : Bool) :
    WriteState :=
  { state with
    isSubscribed := fun other found =>
      if conn = other ∧ id = found then on else state.isSubscribed other found
    isListed := fun other found =>
      if conn = other ∧ id = found then on else state.isListed other found }

/-- Offers an event to every other connection that is subscribed and listening at this moment; its
queue takes the event if it is open and not full. -/
def tell (state : WriteState) (conn : ConnectionId) (id : CharacteristicId) (value : Json) :
    WriteState :=
  { state with
    queue? := fun other =>
      if conn ≠ other ∧ state.isListed other id ∧ state.isListening other then
        (state.queue? other).map (·.offer (.event (eventText id value)))
      else state.queue? other }

/-- Begins or ends a subscription. Only to begin one, the characteristic has to be there and to
allow events. -/
def subscribe (state : WriteState) (conn : ConnectionId) (id : CharacteristicId) :
    Json → Except HapStatus WriteState
  | .bool true =>
    match state.database.access id with
    | .error status => .error status
    | .ok characteristic =>
      if AttributeDatabase.permits characteristic "ev" then .ok (state.setSubscribed conn id true)
      else .error .notificationNotSupported
  | .bool false => .ok (state.setSubscribed conn id false)
  | _ => .error .invalidValue

/-- Writes a value and tells the others of it, in the form in which it is read back, or as it was
sent if it may not be read. -/
def write (state : WriteState) (conn : ConnectionId) (id : CharacteristicId) (value : Json) :
    HapStatus × WriteState :=
  match state.database.write id value with
  | .error status => (status, state)
  | .ok database =>
    let shown := match database.read id with
      | .ok shown => shown
      | .error _ => value
    (.success, { state with database }.tell conn id shown)

/-- Applies an entry: its subscription first, and if that is granted its value. -/
def apply (state : WriteState) (conn : ConnectionId) (id : CharacteristicId) (entry : Json) :
    HapStatus × WriteState :=
  match (entry.get? "ev").elim (.ok state) (state.subscribe conn id) with
  | .error status => (status, state)
  | .ok state => (entry.get? "value").elim (.success, state) (state.write conn id)

/-- Applies entries from first to last, with the status of each. -/
def applyAll (state : WriteState) (conn : ConnectionId)
    (entries : List (CharacteristicId × Json)) :
    List (CharacteristicId × HapStatus) × WriteState :=
  entries.foldl (fun (results, state) (id, entry) =>
    let (status, state) := state.apply conn id entry
    (results ++ [(id, status)], state)) ([], state)

theorem applyAll_from (state : WriteState) (conn : ConnectionId)
    (entries : List (CharacteristicId × Json)) (results : List (CharacteristicId × HapStatus)) :
    entries.foldl (fun (results, state) (id, entry) =>
        let (status, state) := state.apply conn id entry
        (results ++ [(id, status)], state)) (results, state) =
      (results ++ (state.applyAll conn entries).1, (state.applyAll conn entries).2) := by
  induction entries generalizing state results with
  | nil => simp [applyAll]
  | cons first rest ih =>
    unfold applyAll
    rw [List.foldl_cons, List.foldl_cons, ih, ih _ ([] ++ _)]
    simp only [List.nil_append, List.append_assoc]

theorem applyAll_cons (state : WriteState) (conn : ConnectionId) (id : CharacteristicId)
    (entry : Json) (rest : List (CharacteristicId × Json)) :
    state.applyAll conn ((id, entry) :: rest) =
      let applied := state.apply conn id entry
      ((id, applied.1) :: (applied.2.applyAll conn rest).1, (applied.2.applyAll conn rest).2) := by
  have hfrom := applyAll_from (state.apply conn id entry).2 conn rest
    [(id, (state.apply conn id entry).1)]
  rw [List.singleton_append] at hfrom
  exact hfrom

end WriteState

/-! ## One entry -/

namespace Registry

variable {registry : Registry} {conn other : ConnectionId}

theorem isAttached_eq (registry : Registry) (conn : ConnectionId) :
    registry.isAttached conn = (registry.session conn).isAttached := by
  unfold isAttached session
  cases registry.session? conn with
  | none => rfl
  | some session => rfl

theorem isEncrypted_eq_session (registry : Registry) (conn : ConnectionId) :
    registry.isEncrypted conn = (registry.session conn).isEncrypted := by
  unfold isEncrypted session
  cases registry.session? conn with
  | none => rfl
  | some session => rfl

/-- A change of subscriptions changes the set of one session. -/
theorem session_setSubscription (registry : Registry) (conn : ConnectionId) (id : CharacteristicId)
    (on : Bool) (other : ConnectionId) :
    (registry.setSubscription conn id on).session other =
      if conn = other then
        { registry.session conn with
          subscriptions :=
            if on then (registry.session conn).subscriptions.insert id
            else (registry.session conn).subscriptions.erase id }
      else registry.session other := by
  cases on with
  | true =>
    exact registry.session_modify conn other fun session =>
      { session with subscriptions := session.subscriptions.insert id }
  | false =>
    exact registry.session_modify conn other fun session =>
      { session with subscriptions := session.subscriptions.erase id }

/-- A change of subscriptions changes the index for one connection and one characteristic. -/
theorem contains_subscribersOf_setSubscription (registry : Registry) (conn : ConnectionId)
    (id : CharacteristicId) (on : Bool) (other : ConnectionId) (found : CharacteristicId) :
    ((registry.setSubscription conn id on).subscribersOf found).contains other =
      if conn = other ∧ id = found then on else (registry.subscribersOf found).contains other := by
  rw [Bool.eq_iff_iff, List.contains_iff_mem, mem_subscribersOf]
  cases on with
  | true =>
    have hindex := @mem_index_iff conn other registry.subscribers id found
    refine hindex.trans ?_
    rw [← mem_subscribersOf]
    split
    · rename_i hsame
      exact iff_of_true (.inl hsame.symm) rfl
    · rename_i hsame
      rw [List.contains_iff_mem]
      exact or_iff_right fun hboth => hsame hboth.symm
  | false =>
    have hunindex := @mem_unindex_iff conn other registry.subscribers id found
    refine hunindex.trans ?_
    rw [← mem_subscribersOf]
    split
    · rename_i hsame
      exact iff_of_false (fun hboth => hboth.2 hsame.symm) Bool.false_ne_true
    · rename_i hsame
      rw [List.contains_iff_mem]
      exact and_iff_left fun hboth => hsame hboth.symm

end Registry

namespace Connections

/-- To a queue a broadcast is a message that it is offered, if the index lists its connection, which
is not the origin and takes events. -/
theorem outbox?_broadcast_offer (connections : Connections) (id : CharacteristicId) (value : Json)
    (conn other : ConnectionId) :
    (connections.broadcast id value (some conn)).2.outbox? other =
      if conn ≠ other ∧ (connections.registry.subscribersOf id).contains other ∧
          (connections.registry.isEncrypted other && connections.registry.isAttached other) then
        (connections.outbox? other).map (·.offer (.event (eventText id value)))
      else connections.outbox? other := by
  have hrecipients : other ∈ connections.recipients id (some conn) ↔
      (conn ≠ other ∧ (connections.registry.subscribersOf id).contains other ∧
        (connections.registry.isEncrypted other && connections.registry.isAttached other)) ∧
      (connections.outbox? other).any (·.hasRoom) = true := by
    rw [mem_recipients, takesEvents, Bool.and_eq_true, List.contains_iff_mem, and_left_comm,
      and_assoc, and_assoc]
  rw [outbox?_broadcast_recipients, if_congr hrecipients rfl rfl, ite_and, Outbox.map_offer,
    eventMessage_eq]

end Connections

namespace Accessory

variable {accessory : Accessory} {conn : ConnectionId} {id : CharacteristicId} {entry : Json}

/-- What requests to write see of the accessory. -/
def writeState (accessory : Accessory) : WriteState where
  database := accessory.database
  isSubscribed conn id := (accessory.registry.session conn).subscriptions.contains id
  isListed conn id := (accessory.registry.subscribersOf id).contains conn
  isListening conn := accessory.registry.isEncrypted conn && accessory.registry.isAttached conn
  queue? := accessory.connections.outbox?

theorem writeState_setSubscription (accessory : Accessory) (conn : ConnectionId)
    (id : CharacteristicId) (on : Bool) :
    (accessory.setRegistry (accessory.registry.setSubscription conn id on)).writeState =
      accessory.writeState.setSubscribed conn id on := by
  have hregistry : (accessory.setRegistry
      (accessory.registry.setSubscription conn id on)).registry =
        accessory.registry.setSubscription conn id on := rfl
  unfold writeState WriteState.setSubscribed
  rw [hregistry]
  congr 1
  · funext other found
    rw [Registry.session_setSubscription]
    by_cases hconn : conn = other
    · subst hconn
      by_cases hid : id = found
      · subst hid
        cases on with
        | true => simp
        | false => simp
      · cases on with
        | true => simp [hid, ExtTreeSet.contains_insert]
        | false => simp [hid, ExtTreeSet.contains_erase]
    · simp [hconn]
  · funext other found
    exact accessory.registry.contains_subscribersOf_setSubscription conn id on other found
  · funext other
    simp only [Registry.isEncrypted_eq_session, Registry.isAttached_eq,
      Registry.session_setSubscription]
    split
    · rename_i hconn
      subst hconn
      rfl
    · rfl

theorem writeState_broadcast (accessory : Accessory) (database : AttributeDatabase)
    (conn : ConnectionId) (id : CharacteristicId) (value : Json) :
    ({ accessory with
      database
      connections := (accessory.connections.broadcast id value (some conn)).2 } :
        Accessory).writeState =
      { accessory.writeState with database }.tell conn id value := by
  have hregistry := accessory.connections.broadcast_registry id value (some conn)
  unfold writeState WriteState.tell registry
  simp only [hregistry]
  congr 1
  funext other
  exact accessory.connections.outbox?_broadcast_offer id value conn other

theorem subscribe_writeState (accessory : Accessory) (conn : ConnectionId) (id : CharacteristicId)
    (entry : Json) :
    (entry.get? "ev").elim (.ok accessory.writeState) (accessory.writeState.subscribe conn id) =
      (accessory.applySubscription conn id entry).map writeState := by
  unfold applySubscription
  cases entry.get? "ev" with
  | none => rfl
  | some ev =>
    cases ev with
    | bool on =>
      cases on with
      | false => exact congrArg Except.ok (writeState_setSubscription ..).symm
      | true =>
        have hdatabase : accessory.writeState.database = accessory.database := rfl
        simp only [Option.elim_some, WriteState.subscribe, Json.bool?, if_true,
          AttributeDatabase.subscribe, hdatabase]
        cases accessory.database.access id with
        | error status => rfl
        | ok characteristic =>
          simp only [bind, Except.bind]
          split
          · exact congrArg Except.ok (writeState_setSubscription ..).symm
          · rfl
    | _ => rfl

theorem write_writeState (accessory : Accessory) (conn : ConnectionId) (id : CharacteristicId)
    (entry : Json) :
    (entry.get? "value").elim (.success, accessory.writeState)
        (accessory.writeState.write conn id) =
      ((accessory.applyValue conn id entry).1,
        (accessory.applyValue conn id entry).2.writeState) := by
  unfold applyValue
  cases entry.get? "value" with
  | none => rfl
  | some value =>
    have hdatabase : accessory.writeState.database = accessory.database := rfl
    simp only [Option.elim_some, WriteState.write, hdatabase]
    cases accessory.database.write id value with
    | error status => rfl
    | ok database =>
      simp only [writeState_broadcast]
      cases database.read id with
      | ok shown => rfl
      | error status => rfl

/-- An entry does to the accessory what it does to what is seen of it. -/
theorem applyEntry_writeState (accessory : Accessory) (conn : ConnectionId) (id : CharacteristicId)
    (entry : Json) :
    accessory.writeState.apply conn id entry =
      ((accessory.applyEntry conn id entry).1,
        (accessory.applyEntry conn id entry).2.writeState) := by
  unfold WriteState.apply applyEntry
  rw [subscribe_writeState]
  cases accessory.applySubscription conn id entry with
  | error status => rfl
  | ok after => exact write_writeState after conn id entry

/-! ## All entries -/

theorem applyEntries_writeState {entries : List Json} (accessory : Accessory) (conn : ConnectionId)
    (hnamed : ∀ entry ∈ entries, (entryId? entry).isSome = true) :
    ∃ results, (accessory.applyEntries conn entries).1 = some results ∧
      accessory.writeState.applyAll conn (namedEntries entries) =
        (results, (accessory.applyEntries conn entries).2.writeState) ∧
      results.map (some ·.1) = entries.map entryId? := by
  induction entries generalizing accessory with
  | nil => exact ⟨[], rfl, rfl, rfl⟩
  | cons entry rest ih =>
    obtain ⟨id, hid⟩ := Option.isSome_iff_exists.1 (hnamed entry List.mem_cons_self)
    have hentry := accessory.applyEntry_writeState conn id entry
    obtain ⟨results, hresults, hstate, hids⟩ := ih (accessory.applyEntry conn id entry).2
      fun next hmem => hnamed next (List.mem_cons_of_mem entry hmem)
    refine ⟨(id, (accessory.applyEntry conn id entry).1) :: results, ?_, ?_, ?_⟩
    · simp only [applyEntries, hid, hresults, Option.map_some]
    · simp only [namedEntries, hid, WriteState.applyAll_cons, hentry, hstate, applyEntries]
    · rw [List.map_cons, List.map_cons, hids, hid]

theorem writeResponse_eq (results : List (CharacteristicId × HapStatus)) :
    writeResponse results =
      if ∀ result ∈ results, result.2 = .success then .ofStatus 204
      else .json 207 (characteristicsJson (results.map fun (id, status) =>
        id.entry [("status", .ofInt status.code)])) := by
  simp only [writeResponse, List.all_eq_true, beq_iff_eq]
  rfl

/-- The text of statuses is that of one entry for each. -/
theorem print_statuses (results : List (CharacteristicId × HapStatus)) :
    (characteristicsJson (results.map fun (id, status) =>
      id.entry [("status", .ofInt status.code)])).print =
        listText (results.map fun (id, status) => entryText id (some status) none) := by
  rw [print_characteristicsJson, List.map_map]
  exact congrArg listText
    (List.map_congr_left fun result _ => print_entry result.1 (some result.2) none)

/-- A request to write, on a connection that is encrypted, whose entries all name a characteristic:
the entries are applied from first to last, each to what those before it have left, and each has its
status. All went well, and the answer is empty, or it lists the statuses in the order of the
entries. The connection itself has nothing queued for what it wrote. -/
theorem written_in_order (suite : CipherSuite) (accessory : Accessory) (conn : ConnectionId)
    (hencrypted : accessory.registry.isEncrypted conn = true) (request : Http.Request)
    (hmethod : request.method = .put) (hpath : request.path = "/characteristics")
    (entries : List Json) (hentries : entries? request.body = some entries)
    (hnamed : ∀ entry ∈ entries, (entryId? entry).isSome = true) :
    let handled := accessory.handle suite conn request
    let applied := accessory.writeState.applyAll conn (namedEntries entries)
    handled.2.writeState = applied.2 ∧
      applied.1.map (some ·.1) = entries.map entryId? ∧
      handled.1.response =
        (if ∀ result ∈ applied.1, result.2 = .success then .ofStatus 204
        else .json 207 (characteristicsJson (applied.1.map fun (id, status) =>
          id.entry [("status", .ofInt status.code)]))) ∧
      ((∀ result ∈ applied.1, result.2 = .success) →
        handled.1.response.status = 204 ∧ handled.1.response.body = []) ∧
      ((∃ result ∈ applied.1, result.2 ≠ .success) →
        handled.1.response.status = 207 ∧
        handled.1.response.body =
          listText (applied.1.map fun (id, status) => entryText id (some status) none)) ∧
      handled.1.activate = false ∧ handled.1.close = false ∧
      handled.2.connections.outbox? conn = accessory.connections.outbox? conn := by
  intro handled applied
  obtain ⟨results, hresults, hstate, hids⟩ := accessory.applyEntries_writeState conn hnamed
  have happlied : applied = _ := hstate
  have hhandled : handled = _ := handle_put suite hmethod hpath hencrypted
  have houtbox := (accessory.writeCharacteristics_applies conn request.body).outbox
  unfold writeCharacteristics at hhandled houtbox
  simp only [hentries, hresults, Option.map_some, Option.getD_some] at hhandled houtbox
  rw [hhandled, happlied]
  refine ⟨rfl, hids, writeResponse_eq results, fun hall => ?_,
    fun ⟨result, hresult, hfailed⟩ => ?_, rfl, rfl, houtbox⟩
  · rw [writeResponse_eq, if_pos hall]
    exact ⟨rfl, rfl⟩
  · rw [writeResponse_eq, if_neg fun hall => hfailed (hall result hresult)]
    exact ⟨rfl, print_statuses results⟩

/-- The lightbulb with two encrypted connections, the second of which is subscribed to the light. -/
def watchedLightbulb : Accessory :=
  let keys : SessionKeys := ⟨.replicate 32 1, .replicate 32 2⟩
  let calls := [(1, .attach 8), (1, .stage "c" keys), (1, .activate),
    (2, .attach 8), (2, .stage "d" keys), (2, .activate), (2, .subscribe ⟨1, 10⟩ true)]
  { lightbulbAccessory with connections := ({} : Connections).callAll .transparent calls }

/-- The first connection switches the light on by the number one, and writes to what is not there:
the second is told of the light as it is read back. -/
theorem written_in_order_lightbulb :
    let request := writeRequest ("\x7b\"characteristics\":[" ++
      "\x7b\"aid\":1,\"iid\":10,\"ev\":true,\"value\":1\x7d," ++
      "\x7b\"aid\":1,\"iid\":99,\"value\":0\x7d]\x7d")
    let handled := watchedLightbulb.handle .transparent 1 request
    watchedLightbulb.registry.isEncrypted 1 = true ∧
      request.method = .put ∧ request.path = "/characteristics" ∧
      (∃ entries, entries? request.body = some entries ∧
        (∀ entry ∈ entries, (entryId? entry).isSome = true) ∧
        (watchedLightbulb.writeState.applyAll 1 (namedEntries entries)).1 =
          [(⟨1, 10⟩, .success), (⟨1, 99⟩, .resourceDoesNotExist)]) ∧
      handled.1.response.status = 207 ∧
      handled.1.response.body = utf8 ("\x7b\"characteristics\":[" ++
        "\x7b\"aid\":1,\"iid\":10,\"status\":0\x7d," ++
        "\x7b\"aid\":1,\"iid\":99,\"status\":-70409\x7d]\x7d") ∧
      (handled.2.connections.outbox? 2).map (·.messages) =
        some [.event (utf8 ("EVENT/1.0 200 OK\r\n" ++
          "Content-Type: application/hap+json\r\nContent-Length: 53\r\n\r\n" ++
          "\x7b\"characteristics\":[\x7b\"aid\":1,\"iid\":10,\"value\":true\x7d]\x7d"))] ∧
      (handled.2.connections.outbox? 1).map (·.messages) = some [] := by
  intro request handled
  have hencrypted : watchedLightbulb.registry.isEncrypted 1 = true := by decide +kernel
  have hread : (entries? request.body).isSome = true := by decide +kernel
  obtain ⟨entries, hentries⟩ := Option.isSome_iff_exists.1 hread
  have hall :
      ((entries? request.body).getD []).all (fun entry => (entryId? entry).isSome) = true := by
    decide +kernel
  rw [hentries, Option.getD_some, List.all_eq_true] at hall
  obtain ⟨-, -, -, -, hfailed, -, -, hown⟩ := written_in_order .transparent watchedLightbulb 1
    hencrypted request rfl rfl entries hentries hall
  have hstatuses : (watchedLightbulb.writeState.applyAll 1
      (namedEntries ((entries? request.body).getD []))).1 =
        [(⟨1, 10⟩, .success), (⟨1, 99⟩, .resourceDoesNotExist)] := by
    decide +kernel
  rw [hentries, Option.getD_some] at hstatuses
  rw [hstatuses] at hfailed
  obtain ⟨hstatus, hbody⟩ := hfailed ⟨(⟨1, 99⟩, .resourceDoesNotExist), by simp, by decide⟩
  refine ⟨hencrypted, rfl, rfl, ⟨entries, hentries, hall, hstatuses⟩, hstatus, ?_, ?_, ?_⟩
  · rw [show handled.1.response.body = _ from hbody]
    decide +kernel
  · decide +kernel
  · rw [hown]
    decide +kernel

end Accessory

end HomeKit
