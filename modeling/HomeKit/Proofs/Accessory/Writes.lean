import HomeKit.Proofs.Accessory.Verified
import HomeKit.Proofs.Connection.Broadcasting

/-!
# Requests that write

What the entries of a request come to is decided by the attribute database alone: which
subscriptions it grants and which values it takes (`AttributeDatabase.grants`). The accessory
changes by just that, and for every value that is written an event is queued for the other
subscribers (`Accessory.applyEntries_applies`).

Entries are applied up to the first that names no characteristic, and the request is then answered
as malformed. It has left everything as it was only if what was granted until then makes no
difference and nobody was told of it (`Accessory.write_unaltered_iff`).
-/

namespace HomeKit

open Std (ExtTreeSet)

/-! ## What is granted -/

/-- What a database grants of a request, and the database then. -/
structure Grants where
  database : AttributeDatabase
  /-- Subscriptions that begin or end, in order. -/
  subscriptions : List (CharacteristicId × Bool) := []
  /-- Characteristics that take a value, in order. -/
  written : List CharacteristicId := []

namespace Grants

/-- What is granted first, and then what is granted with the database as it is then. -/
def andThen (first : Grants) (next : AttributeDatabase → Grants) : Grants :=
  let rest := next first.database
  { rest with
    subscriptions := first.subscriptions ++ rest.subscriptions
    written := first.written ++ rest.written }

/-- Whether the last change of a characteristic's subscription begins it, if there is a change. -/
def subscription? (grants : Grants) (id : CharacteristicId) : Option Bool :=
  (grants.subscriptions.reverse.find? (·.1 = id)).map (·.2)

/-- The subscriptions of a session with the changes made to them. -/
def subscribed (changes : List (CharacteristicId × Bool)) (ids : ExtTreeSet CharacteristicId) :
    ExtTreeSet CharacteristicId :=
  changes.foldl (fun ids (id, on) => if on then ids.insert id else ids.erase id) ids

variable {grants : Grants} {id : CharacteristicId} {ids : ExtTreeSet CharacteristicId}

/-- The last change of a subscription counts. -/
theorem mem_subscribed :
    id ∈ subscribed grants.subscriptions ids ↔
      (grants.subscription? id).getD (decide (id ∈ ids)) = true := by
  unfold subscription? subscribed
  induction grants.subscriptions using List.reverseRecOn with
  | nil => simp
  | append_singleton changes change ih =>
    rcases change with ⟨changed, on⟩
    rw [List.foldl_append, List.foldl_cons, List.foldl_nil, List.reverse_append,
      List.reverse_singleton, List.singleton_append, List.find?_cons]
    by_cases hsame : changed = id
    · subst hsame
      cases on with
      | true => simp
      | false => simp
    · cases on with
      | true => simp [hsame, ExtTreeSet.mem_insert, ih]
      | false => simp [hsame, ExtTreeSet.mem_erase, ih]

/-- Subscriptions are as they were if each was last changed to what it was. -/
theorem subscribed_eq_self_iff :
    subscribed grants.subscriptions ids = ids ↔
      ∀ id on, grants.subscription? id = some on → (id ∈ ids ↔ on = true) := by
  constructor
  · intro heq id on hlast
    have hmem := @mem_subscribed grants id ids
    rw [heq, hlast] at hmem
    exact hmem
  · intro hsame
    refine ExtTreeSet.ext_mem fun id => ?_
    rw [mem_subscribed]
    cases hlast : grants.subscription? id with
    | none => exact decide_eq_true_iff
    | some on => exact (hsame id on hlast).symm

end Grants

namespace AttributeDatabase

/-- The subscription that an entry asks for. -/
def grantSubscription (database : AttributeDatabase) (id : CharacteristicId) (entry : Json) :
    Except HapStatus Grants :=
  match entry.get? "ev" with
  | none => .ok { database }
  | some ev =>
    match ev.bool? with
    | none => .error .invalidValue
    | some on =>
      match if on then database.subscribe id else .ok () with
      | .error status => .error status
      | .ok _ => .ok { database, subscriptions := [(id, on)] }

/-- The value that an entry gives. -/
def grantValue (id : CharacteristicId) (entry : Json) (database : AttributeDatabase) : Grants :=
  match entry.get? "value" with
  | none => { database }
  | some value =>
    match database.write id value with
    | .error _ => { database }
    | .ok database => { database, written := [id] }

/-- What an entry asks for; without the subscription it does not get its value written. -/
def grantEntry (id : CharacteristicId) (entry : Json) (database : AttributeDatabase) : Grants :=
  match database.grantSubscription id entry with
  | .error _ => { database }
  | .ok granted => granted.andThen (grantValue id entry)

/-- What entries ask for, one after another. -/
def grants (database : AttributeDatabase) : List (CharacteristicId × Json) → Grants
  | [] => { database }
  | (id, entry) :: rest => (database.grantEntry id entry).andThen (·.grants rest)

end AttributeDatabase

/-- The entries in front of the first that names no characteristic, with what they name. -/
def namedEntries : List Json → List (CharacteristicId × Json)
  | [] => []
  | entry :: rest =>
    match Accessory.entryId? entry with
    | none => []
    | some id => (id, entry) :: namedEntries rest

/-! ## Who is told -/

namespace Connections

variable {connections before mid after : Connections} {conn other : ConnectionId}
  {id : CharacteristicId}

/-- What writes on one connection mean for another: it has the messages queued, and it has none only
if it is no recipient of an event for anything written. -/
structure Told (conn : ConnectionId) (written : List CharacteristicId)
    (before after : Connections) (other : ConnectionId) (queued : List Outgoing) : Prop where
  session : after.registry.session? other = before.registry.session? other
  subscribed : ∀ id,
    other ∈ after.registry.subscribersOf id ↔ other ∈ before.registry.subscribersOf id
  outbox : after.outbox? other = (before.outbox? other).map (·.queue queued)
  nothing : queued = [] ↔ ∀ id ∈ written, other ∉ before.recipients id (some conn)

theorem Untouched.told (h : Untouched before after other) : Told conn [] before after other [] := by
  refine ⟨h.session, h.subscribed, ?_, by simp⟩
  rw [h.outbox, Outbox.map_queue_nil]

/-- A connection for which nothing was queued takes events as before. -/
theorem Told.mem_recipients_iff {written : List CharacteristicId}
    (h : Told conn written before after other []) (id : CharacteristicId) :
    other ∈ after.recipients id (some conn) ↔ other ∈ before.recipients id (some conn) := by
  have houtbox : after.outbox? other = before.outbox? other := by
    rw [h.outbox, Outbox.map_queue_nil]
  have htakes : after.takesEvents other = before.takesEvents other := by
    unfold takesEvents Registry.isEncrypted Registry.isAttached
    rw [h.session, houtbox]
  rw [mem_recipients, mem_recipients, h.subscribed, htakes]

theorem Told.trans {first second : List CharacteristicId} {queued more : List Outgoing}
    (h : Told conn first before mid other queued) (h' : Told conn second mid after other more) :
    Told conn (first ++ second) before after other (queued ++ more) := by
  refine ⟨h'.session.trans h.session, ?_, ?_, ?_⟩
  · exact fun id => (h'.subscribed id).trans (h.subscribed id)
  · rw [h'.outbox, h.outbox]
    cases before.outbox? other with
    | none => rfl
    | some outbox => simp only [Option.map_some, Outbox.queue, List.append_assoc]
  · simp only [List.append_eq_nil_iff, List.forall_mem_append]
    constructor
    -- what comes second is judged by the connection as it was, for nothing was queued
    · rintro ⟨rfl, rfl⟩
      refine ⟨h.nothing.1 rfl, fun id hmem hrecipient => ?_⟩
      exact h'.nothing.1 rfl id hmem ((h.mem_recipients_iff id).2 hrecipient)
    · rintro ⟨hfirst, hsecond⟩
      obtain rfl := h.nothing.2 hfirst
      refine ⟨rfl, h'.nothing.2 fun id hmem hrecipient => ?_⟩
      exact hsecond id hmem ((h.mem_recipients_iff id).1 hrecipient)

/-- The messages of a connection are as they were if there was nothing to tell it. -/
theorem Told.outbox_eq_iff {written : List CharacteristicId} {queued : List Outgoing}
    (h : Told conn written before after other queued) :
    after.outbox? other = before.outbox? other ↔
      ∀ id ∈ written, other ∉ before.recipients id (some conn) := by
  constructor
  · intro hsame id hmem hrecipient
    obtain ⟨-, -, htakes⟩ := mem_recipients.1 hrecipient
    -- a recipient has an outbox, and it would show in there
    unfold takesEvents at htakes
    cases houtbox : before.outbox? other with
    | none =>
      rw [houtbox, Option.any_none, Bool.and_false] at htakes
      cases htakes
    | some outbox =>
      have hmessages := h.outbox
      rw [hsame, houtbox, Option.map_some, Option.some.injEq] at hmessages
      have hqueued := congrArg Outbox.messages hmessages
      have hnil : queued = [] := List.self_eq_append_right.1 hqueued
      exact h.nothing.1 hnil id hmem hrecipient
  · intro hnone
    rw [h.outbox, h.nothing.2 hnone, Outbox.map_queue_nil]

theorem told_broadcast (connections : Connections) (conn : ConnectionId) (id : CharacteristicId)
    (value : Json) (other : ConnectionId) :
    Told conn [id] connections (connections.broadcast id value (some conn)).2 other
      (.replicate ((connections.recipients id (some conn)).count other)
        (.event (eventMessage id value))) := by
  have hregistry := connections.broadcast_registry id value (some conn)
  refine ⟨?_, ?_, outbox?_foldl_push .., ?_⟩
  · rw [hregistry]
  · intro id
    rw [hregistry]
  · simp [List.count_eq_zero]

end Connections

/-! ## What is applied -/

namespace Accessory

variable {accessory before mid after : Accessory} {conn other : ConnectionId}
  {id : CharacteristicId} {entry : Json}

/-- An accessory changes by what is granted to a connection. -/
structure Applies (conn : ConnectionId) (grants : Grants) (before after : Accessory) : Prop where
  database : after.database = grants.database
  subscriptions : (after.registry.session conn).subscriptions =
    Grants.subscribed grants.subscriptions (before.registry.session conn).subscriptions
  outbox : after.connections.outbox? conn = before.connections.outbox? conn
  others : ∀ other, conn ≠ other → ∃ queued,
    Connections.Told conn grants.written before.connections after.connections other queued

theorem Applies.refl (conn : ConnectionId) (accessory : Accessory) :
    Applies conn { database := accessory.database } accessory accessory :=
  ⟨rfl, rfl, rfl, fun other _ => ⟨[], (Connections.Untouched.refl _ other).told⟩⟩

theorem Applies.trans {grants : Grants} {next : AttributeDatabase → Grants}
    (h : Applies conn grants before mid) (h' : Applies conn (next mid.database) mid after) :
    Applies conn (grants.andThen next) before after := by
  rw [h.database] at h'
  refine ⟨h'.database, ?_, h'.outbox.trans h.outbox, ?_⟩
  · rw [h'.subscriptions, h.subscriptions]
    exact (List.foldl_append ..).symm
  · intro other hne
    obtain ⟨queued, hqueued⟩ := h.others other hne
    obtain ⟨more, hmore⟩ := h'.others other hne
    exact ⟨queued ++ more, hqueued.trans hmore⟩

theorem applies_setSubscription (accessory : Accessory) (conn : ConnectionId)
    (id : CharacteristicId) (on : Bool) :
    Applies conn { database := accessory.database, subscriptions := [(id, on)] } accessory
      (accessory.setRegistry (accessory.registry.setSubscription conn id on)) := by
  refine ⟨rfl, ?_, rfl, ?_⟩
  · have hsession := Registry.session_modify accessory.registry conn conn fun session =>
      { session with subscriptions := Grants.subscribed [(id, on)] session.subscriptions }
    rw [if_pos rfl] at hsession
    cases on with
    | true => exact congrArg Session.subscriptions hsession
    | false => exact congrArg Session.subscriptions hsession
  · intro other hne
    have huntouched := Connections.call_untouched .transparent accessory.connections hne
      (.subscribe id on)
    exact ⟨[], huntouched.told⟩

theorem applySubscription_applies (accessory : Accessory) (conn : ConnectionId)
    (id : CharacteristicId) (entry : Json) :
    (∃ status, accessory.applySubscription conn id entry = .error status ∧
        accessory.database.grantSubscription id entry = .error status) ∨
      ∃ after granted, accessory.applySubscription conn id entry = .ok after ∧
        accessory.database.grantSubscription id entry = .ok granted ∧
        Applies conn granted accessory after := by
  unfold applySubscription AttributeDatabase.grantSubscription
  cases entry.get? "ev" with
  | none => exact Or.inr ⟨_, _, rfl, rfl, .refl conn accessory⟩
  | some ev =>
    simp only
    cases ev.bool? with
    | none => exact Or.inl ⟨_, rfl, rfl⟩
    | some on =>
      simp only
      cases (if on then accessory.database.subscribe id else .ok ()) with
      | error status => exact Or.inl ⟨status, rfl, rfl⟩
      | ok _ => exact Or.inr ⟨_, _, rfl, rfl, applies_setSubscription accessory conn id on⟩

theorem applyValue_applies (accessory : Accessory) (conn : ConnectionId) (id : CharacteristicId)
    (entry : Json) :
    Applies conn (accessory.database.grantValue id entry) accessory
      (accessory.applyValue conn id entry).2 := by
  unfold applyValue AttributeDatabase.grantValue
  cases entry.get? "value" with
  | none => exact .refl conn accessory
  | some value =>
    simp only
    cases accessory.database.write id value with
    | error status => exact .refl conn accessory
    | ok database =>
      let shown := (database.read id).toOption.getD value
      have hregistry := accessory.connections.broadcast_registry id shown (some conn)
      have hnone : (accessory.connections.recipients id (some conn)).count conn = 0 :=
        List.count_eq_zero.2 fun hmem => (Connections.mem_recipients.1 hmem).2.1 rfl
      have houtbox : (accessory.connections.broadcast id shown (some conn)).2.outbox? conn = _ :=
        Connections.outbox?_foldl_push ..
      rw [hnone] at houtbox
      refine ⟨rfl, ?_, ?_, ?_⟩
      · simp only [registry, hregistry, shown]
        rfl
      · simp only
        rw [houtbox]
        exact Outbox.map_queue_nil _
      · intro other _
        exact ⟨_, Connections.told_broadcast accessory.connections conn id shown other⟩

theorem applyEntry_applies (accessory : Accessory) (conn : ConnectionId) (id : CharacteristicId)
    (entry : Json) :
    Applies conn (accessory.database.grantEntry id entry) accessory
      (accessory.applyEntry conn id entry).2 := by
  unfold applyEntry AttributeDatabase.grantEntry
  rcases accessory.applySubscription_applies conn id entry with
    ⟨status, happlied, hgranted⟩ | ⟨after, granted, happlied, hgranted, happlies⟩
  · rw [happlied, hgranted]
    exact .refl conn accessory
  · rw [happlied, hgranted]
    exact happlies.trans (applyValue_applies after conn id entry)

/-- Entries are applied up to the first that names no characteristic. -/
theorem applyEntries_applies (accessory : Accessory) (conn : ConnectionId) (entries : List Json) :
    Applies conn (accessory.database.grants (namedEntries entries)) accessory
      (accessory.applyEntries conn entries).2 := by
  induction entries generalizing accessory with
  | nil => exact .refl conn accessory
  | cons entry rest ih =>
    unfold applyEntries namedEntries
    cases entryId? entry with
    | none => exact .refl conn accessory
    | some id =>
      exact (accessory.applyEntry_applies conn id entry).trans (ih _)

/-! ## Malformed requests -/

/-- The entries are all applied unless one of them names no characteristic. -/
theorem applyEntries_eq_none_iff (accessory : Accessory) (conn : ConnectionId)
    (entries : List Json) :
    (accessory.applyEntries conn entries).1 = none ↔
      ∃ entry ∈ entries, entryId? entry = none := by
  induction entries generalizing accessory with
  | nil =>
    constructor
    · nofun
    · rintro ⟨entry, hmem, -⟩
      cases hmem
  | cons entry rest ih =>
    unfold applyEntries
    cases hid : entryId? entry with
    | none => exact ⟨fun _ => ⟨entry, List.mem_cons_self, hid⟩, fun _ => rfl⟩
    | some id =>
      simp only [Option.map_eq_none_iff, ih, List.mem_cons, exists_eq_or_imp, hid, reduceCtorEq,
        false_or]

theorem writeCharacteristics_status (accessory : Accessory) (conn : ConnectionId) (body : Bytes) :
    (accessory.writeCharacteristics conn body).1.status = 400 ↔
      ∀ entries, entries? body = some entries → ∃ entry ∈ entries, entryId? entry = none := by
  have hstatus : ∀ statuses, (writeResponse statuses).status ≠ 400 := by
    intro statuses
    unfold writeResponse
    split
    · decide
    · change (207 : UInt16) ≠ 400
      decide
  unfold writeCharacteristics
  cases entries? body with
  | none => exact ⟨fun _ => nofun, fun _ => rfl⟩
  | some entries =>
    have hnone := accessory.applyEntries_eq_none_iff conn entries
    rcases haccessory : accessory.applyEntries conn entries with ⟨statuses, after⟩
    rw [haccessory] at hnone
    simp only [haccessory, Option.some.injEq, forall_eq', ← hnone]
    cases statuses with
    | none => exact ⟨fun _ => rfl, fun _ => rfl⟩
    | some statuses => exact ⟨fun h => absurd h (hstatus statuses), nofun⟩

theorem writeCharacteristics_applies (accessory : Accessory) (conn : ConnectionId) (body : Bytes) :
    Applies conn (accessory.database.grants (namedEntries ((entries? body).getD []))) accessory
      (accessory.writeCharacteristics conn body).2 := by
  unfold writeCharacteristics
  cases entries? body with
  | none => exact .refl conn accessory
  | some entries => exact accessory.applyEntries_applies conn entries

theorem handle_put (suite : CipherSuite) {request : Http.Request} (hmethod : request.method = .put)
    (hpath : request.path = "/characteristics")
    (hencrypted : accessory.registry.isEncrypted conn = true) :
    accessory.handle suite conn request =
      ({ response := (accessory.writeCharacteristics conn request.body).1 },
        (accessory.writeCharacteristics conn request.body).2) := by
  unfold handle serve
  rw [hpath, hmethod, hencrypted]
  rfl

/-- The document, the subscriptions of all sessions and all that waits to be sent are the same. -/
structure Unaltered (before after : Accessory) : Prop where
  document : after.database.document = before.database.document
  subscriptions : ∀ conn,
    (after.registry.session conn).subscriptions = (before.registry.session conn).subscriptions
  outbox : ∀ conn, after.connections.outbox? conn = before.connections.outbox? conn

theorem Applies.unaltered_iff {grants : Grants} (h : Applies conn grants before after) :
    Unaltered before after ↔
      grants.database.document = before.database.document ∧
        (∀ id on, grants.subscription? id = some on →
          (id ∈ (before.registry.session conn).subscriptions ↔ on = true)) ∧
        ∀ id ∈ grants.written, before.connections.recipients id (some conn) = [] := by
  have houtbox : (∀ other, after.connections.outbox? other = before.connections.outbox? other) ↔
      ∀ id ∈ grants.written, before.connections.recipients id (some conn) = [] := by
    constructor
    · intro hsame id hmem
      refine List.eq_nil_iff_forall_not_mem.2 fun other hrecipient => ?_
      have hne := (Connections.mem_recipients.1 hrecipient).2.1
      obtain ⟨queued, hqueued⟩ := h.others other hne
      exact hqueued.outbox_eq_iff.1 (hsame other) id hmem hrecipient
    · intro hnone other
      by_cases hne : conn = other
      · subst hne
        exact h.outbox
      · obtain ⟨queued, hqueued⟩ := h.others other hne
        refine hqueued.outbox_eq_iff.2 fun id hmem => ?_
        rw [hnone id hmem]
        exact List.not_mem_nil
  rw [← Grants.subscribed_eq_self_iff, ← h.subscriptions, ← h.database, ← houtbox]
  constructor
  · intro hsame
    exact ⟨hsame.document, hsame.subscriptions conn, hsame.outbox⟩
  · rintro ⟨hdocument, hsubscriptions, hmessages⟩
    refine ⟨hdocument, ?_, hmessages⟩
    intro other
    by_cases hne : conn = other
    · subst hne
      exact hsubscriptions
    · obtain ⟨queued, hqueued⟩ := h.others other hne
      have hsession : after.registry.session other = before.registry.session other :=
        congrArg (·.getD {}) hqueued.session
      rw [hsession]

/-- A request to write is answered as malformed if one of its entries names no characteristic, or if
it has no entries at all. Malformed or not, it leaves everything as it was only if the entries in
front of that one are granted nothing that makes a difference: the document comes out the same, each
subscription that they change is changed back to what it was, and nobody is told of anything that
they write. -/
theorem write_unaltered_iff (suite : CipherSuite) (accessory : Accessory) (conn : ConnectionId)
    (hencrypted : accessory.registry.isEncrypted conn = true) (request : Http.Request)
    (hmethod : request.method = .put) (hpath : request.path = "/characteristics") :
    let handled := accessory.handle suite conn request
    let grants := accessory.database.grants (namedEntries ((entries? request.body).getD []))
    (handled.1.response.status = 400 ↔
      ∀ entries, entries? request.body = some entries → ∃ entry ∈ entries, entryId? entry = none) ∧
    (Unaltered accessory handled.2 ↔
      grants.database.document = accessory.database.document ∧
        (∀ id on, grants.subscription? id = some on →
          (id ∈ (accessory.registry.session conn).subscriptions ↔ on = true)) ∧
        ∀ id ∈ grants.written, accessory.connections.recipients id (some conn) = []) := by
  intro handled grants
  have hhandled : handled = _ := handle_put suite hmethod hpath hencrypted
  rw [hhandled]
  exact ⟨accessory.writeCharacteristics_status conn request.body,
    (accessory.writeCharacteristics_applies conn request.body).unaltered_iff⟩

/-- A paired lightbulb, and a connection that is encrypted. -/
def lightbulbAccessory : Accessory :=
  { sevensAccessory with
    database := .lightbulb "Test"
    connections := { registry := Observed.activated } }

/-- A request to write these entries. -/
def writeRequest (body : String) : Http.Request where
  method := .put
  path := "/characteristics"
  body := utf8 body

/-- With the malformed entry in front of the other, the light stays off. -/
theorem write_unaltered_iff_first :
    let request := writeRequest
      "\x7b\"characteristics\":[\x7b\"aid\":1\x7d,\x7b\"aid\":1,\"iid\":10,\"value\":true\x7d]\x7d"
    let handled := lightbulbAccessory.handle .transparent 1 request
    lightbulbAccessory.registry.isEncrypted 1 = true ∧ request.method = .put ∧
      request.path = "/characteristics" ∧ handled.1.response.status = 400 ∧
      Unaltered lightbulbAccessory handled.2 := by
  intro request handled
  have hencrypted : lightbulbAccessory.registry.isEncrypted 1 = true := by decide +kernel
  have hstatus : handled.1.response.status = 400 := by decide +kernel
  have hempty : (namedEntries ((entries? request.body).getD [])).isEmpty = true := by
    decide +kernel
  have hunaltered := (write_unaltered_iff .transparent lightbulbAccessory 1 hencrypted request rfl
    rfl).2
  rw [List.isEmpty_iff.1 hempty] at hunaltered
  exact ⟨hencrypted, rfl, rfl, hstatus, hunaltered.2 ⟨rfl, nofun, nofun⟩⟩

/-- Behind an entry that switches the light on, a malformed one does not keep it off. -/
theorem write_altered_lightbulb :
    let request := writeRequest
      "\x7b\"characteristics\":[\x7b\"aid\":1,\"iid\":10,\"value\":true\x7d,\x7b\"aid\":1\x7d]\x7d"
    let handled := lightbulbAccessory.handle .transparent 1 request
    let isOn := fun accessory : Accessory =>
      ((AttributeDatabase.find? accessory.database.document ⟨1, 10⟩).bind (·.get? "value")).bind
        Json.bool?
    lightbulbAccessory.registry.isEncrypted 1 = true ∧ handled.1.response.status = 400 ∧
      isOn lightbulbAccessory = some false ∧ isOn handled.2 = some true ∧
      ¬ Unaltered lightbulbAccessory handled.2 := by
  intro request handled isOn
  have hoff : isOn lightbulbAccessory = some false := by decide +kernel
  have hon : isOn handled.2 = some true := by decide +kernel
  refine ⟨by decide +kernel, by decide +kernel, hoff, hon, ?_⟩
  intro hunaltered
  have hsame : isOn handled.2 = isOn lightbulbAccessory := by
    simp only [isOn, hunaltered.document]
  rw [hon, hoff] at hsame
  cases hsame

end Accessory

end HomeKit
