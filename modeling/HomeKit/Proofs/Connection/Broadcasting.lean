import HomeKit.Proofs.Connection.Subscriptions
import Mathlib.Data.List.Nodup

/-!
# Broadcasts

A broadcast puts one event into the queue of every connection that is subscribed, encrypted and
attached, that has room in its queue and is not the origin of the change (`Connections.hears`). The
subscribers are looked up in the index, which says the same as the sessions after every run
(`Connections.run_indexed`), so each of them is asked by what its own session says.

They are asked one after another, and an event for one of them changes nothing for those that come
later (`Connections.broadcast_eq_foldl_offer`). So what a connection gets is decided by its own
session and its own queue, and of several broadcasts it gets the first ones that it has room for, in
order (`Connections.broadcast_reaches`).
-/

namespace HomeKit

open Std (ExtTreeMap ExtTreeSet)

/-! ## Queues -/

namespace Outbox

variable {outbox : Outbox}

/-- Puts messages behind the others. -/
def queue (outbox : Outbox) (messages : List Outgoing) : Outbox :=
  { outbox with messages := outbox.messages ++ messages }

@[simp] theorem map_queue_nil (outbox? : Option Outbox) : outbox?.map (·.queue []) = outbox? := by
  cases outbox? with
  | none => rfl
  | some outbox => simp only [Option.map_some, queue, List.append_nil]

/-- How many messages there is room for. -/
def room (outbox : Outbox) : Nat :=
  if outbox.isOpen then outbox.capacity - outbox.messages.length else 0

/-- Puts a message behind the others, if there is room. -/
def offer (outbox : Outbox) (message : Outgoing) : Outbox :=
  if outbox.hasRoom then outbox.push message else outbox

theorem hasRoom_iff : outbox.hasRoom = true ↔ 0 < outbox.room := by
  unfold hasRoom room
  cases outbox.isOpen with
  | false => simp
  | true =>
    rw [if_pos rfl, Bool.true_and, decide_eq_true_eq]
    exact Nat.sub_pos_iff_lt.symm

theorem room_push (message : Outgoing) : (outbox.push message).room = outbox.room - 1 := by
  unfold room push
  simp only [List.length_append, List.length_singleton]
  split
  · exact Nat.sub_add_eq ..
  · rfl

theorem map_offer (outbox? : Option Outbox) (message : Outgoing) :
    outbox?.map (·.offer message) =
      if outbox?.any (·.hasRoom) then outbox?.map (·.push message) else outbox? := by
  cases outbox? with
  | none => rfl
  | some outbox => exact apply_ite some ..

/-- Of messages that come one after another, the first are taken that there is room for. -/
theorem foldl_offer (outbox : Outbox) (messages : List Outgoing) :
    messages.foldl offer outbox = outbox.queue (messages.take outbox.room) := by
  induction messages generalizing outbox with
  | nil => simp [queue]
  | cons message rest ih =>
    rw [List.foldl_cons, ih, offer]
    by_cases hroom : outbox.hasRoom = true
    · obtain ⟨left, hleft⟩ := Nat.exists_eq_add_of_lt (hasRoom_iff.1 hroom)
      rw [if_pos hroom, room_push, hleft, Nat.zero_add, Nat.add_sub_cancel, List.take_succ_cons]
      simp only [queue, push, List.append_assoc, List.singleton_append]
    · have hfull : outbox.room = 0 := by
        rw [hasRoom_iff] at hroom
        omega
      rw [if_neg hroom, hfull, List.take_zero, List.take_zero]

end Outbox

namespace Connections

variable {connections : Connections} {conn other : ConnectionId} {id : CharacteristicId}
  {value : Json} {origin : Option ConnectionId}

theorem outbox?_modifyOutbox (connections : Connections) (conn other : ConnectionId)
    (f : Outbox → Outbox) :
    (connections.modifyOutbox conn f).outbox? other =
      if conn = other then (connections.outbox? other).map f else connections.outbox? other := by
  unfold modifyOutbox
  by_cases hsame : conn = other
  · subst hsame
    cases houtbox : connections.outbox? conn with
    | none =>
      simp only [houtbox, if_true, Option.map_none]
    | some outbox =>
      simp only [if_true, Option.map_some, outbox?, Std.ExtTreeMap.getElem?_insert_self]
  · rw [if_neg hsame]
    split
    · simp only [outbox?, Std.ExtTreeMap.getElem?_insert, Std.LawfulEqOrd.compare_eq_iff_eq,
        if_neg hsame]
    · rfl

/-- A message to some connections is queued for each of them. -/
theorem outbox?_foldl_push (message : Outgoing) (conns : List ConnectionId)
    (connections : Connections) (other : ConnectionId) :
    (conns.foldl (fun connections conn => connections.modifyOutbox conn (·.push message))
        connections).outbox? other =
      (connections.outbox? other).map (·.queue (.replicate (conns.count other) message)) := by
  induction conns generalizing connections with
  | nil =>
    rw [List.foldl_nil, List.count_nil, List.replicate_zero, Outbox.map_queue_nil]
  | cons conn conns ih =>
    rw [List.foldl_cons, ih, outbox?_modifyOutbox]
    by_cases hsame : conn = other
    · subst hsame
      rw [if_pos rfl, Option.map_map, List.count_cons_self, List.replicate_succ]
      cases connections.outbox? conn with
      | none => rfl
      | some outbox =>
        simp only [Option.map_some, Function.comp, Outbox.queue, Outbox.push, List.append_assoc,
          List.singleton_append]
    · rw [if_neg hsame, List.count_cons_of_ne hsame]

/-! ## Who is told -/

/-- The connection is to be told of what `origin` changes: it is another one, and its own session
lists the characteristic, is encrypted and is attached. -/
def awaits (connections : Connections) (id : CharacteristicId) (origin : Option ConnectionId)
    (conn : ConnectionId) : Bool :=
  origin != some conn &&
    (connections.registry.session? conn).any fun session =>
      session.subscriptions.contains id && session.isEncrypted && session.isAttached

/-- The connection is to be told, and its queue is open and not full. -/
def hears (connections : Connections) (id : CharacteristicId) (origin : Option ConnectionId)
    (conn : ConnectionId) : Bool :=
  connections.awaits id origin conn && (connections.outbox? conn).any (·.hasRoom)

theorem nodup_subscribersOf (registry : Registry) (id : CharacteristicId) :
    (registry.subscribersOf id).Nodup := by
  refine ExtTreeSet.distinct_toList.imp ?_
  rintro conn other hdistinct rfl
  exact hdistinct Std.ReflCmp.compare_self

theorem nodup_recipients (connections : Connections) (id : CharacteristicId)
    (origin : Option ConnectionId) : (connections.recipients id origin).Nodup :=
  (nodup_subscribersOf ..).filter _

theorem mem_recipients :
    other ∈ connections.recipients id (some conn) ↔
      other ∈ connections.registry.subscribersOf id ∧ conn ≠ other ∧
        connections.takesEvents other = true := by
  unfold recipients
  rw [List.mem_filter]
  simp only [Bool.and_eq_true, bne_iff_ne, ne_eq, Option.some.injEq]

/-- The index leads to those that say of themselves that they are to be told. -/
theorem mem_recipients_iff (h : connections.registry.Indexed) :
    conn ∈ connections.recipients id origin ↔ connections.hears id origin conn = true := by
  have hlisted : conn ∈ connections.registry.subscribersOf id ↔
      connections.registry.IsSubscribed conn id := by
    rw [Registry.mem_subscribersOf, ← Registry.isListed_iff, h.listed_iff]
  unfold recipients hears awaits takesEvents Registry.isEncrypted Registry.isAttached
  rw [List.mem_filter, hlisted]
  unfold Registry.IsSubscribed
  cases connections.registry.session? conn with
  | none => simp
  | some session =>
    simp only [Option.some.injEq, exists_eq_left', Option.any_some, Bool.and_eq_true,
      ExtTreeSet.contains_iff_mem]
    constructor
    · rintro ⟨hin, hother, ⟨hencrypted, hattached⟩, hroom⟩
      exact ⟨⟨hother, ⟨hin, hencrypted⟩, hattached⟩, hroom⟩
    · rintro ⟨⟨hother, ⟨hin, hencrypted⟩, hattached⟩, hroom⟩
      exact ⟨hin, hother, ⟨hencrypted, hattached⟩, hroom⟩

/-- A broadcast puts one event into the queue of each recipient. -/
theorem outbox?_broadcast_recipients (connections : Connections) (id : CharacteristicId)
    (value : Json) (origin : Option ConnectionId) (conn : ConnectionId) :
    (connections.broadcast id value origin).2.outbox? conn =
      if conn ∈ connections.recipients id origin then
        (connections.outbox? conn).map (·.push (.event (eventMessage id value)))
      else connections.outbox? conn := by
  refine (outbox?_foldl_push ..).trans ?_
  split
  · rename_i hmem
    rw [List.count_eq_one_of_mem (nodup_recipients ..) hmem, List.replicate_one]
    rfl
  · rename_i hmem
    rw [List.count_eq_zero_of_not_mem hmem, List.replicate_zero, Outbox.map_queue_nil]

/-- A broadcast puts one event into the queue of each connection that hears it. -/
theorem outbox?_broadcast (h : connections.registry.Indexed) (conn : ConnectionId) :
    (connections.broadcast id value origin).2.outbox? conn =
      if connections.hears id origin conn then
        (connections.outbox? conn).map (·.push (.event (eventMessage id value)))
      else connections.outbox? conn := by
  rw [outbox?_broadcast_recipients]
  exact if_congr (mem_recipients_iff h) rfl rfl

/-! ## One after another -/

/-- Puts an event into the queue of a subscriber, if it takes it as things are at its turn, and
counts it. -/
def offer (event : Outgoing) (origin : Option ConnectionId) (reached : Nat × Connections)
    (conn : ConnectionId) : Nat × Connections :=
  if origin != some conn && reached.2.takesEvents conn then
    (reached.1 + 1, reached.2.modifyOutbox conn (·.push event))
  else reached

theorem takesEvents_modifyOutbox_of_ne (hne : conn ≠ other) (f : Outbox → Outbox) :
    (connections.modifyOutbox conn f).takesEvents other = connections.takesEvents other := by
  unfold takesEvents
  rw [modifyOutbox_registry, outbox?_modifyOutbox, if_neg hne]

theorem foldl_offer (event : Outgoing) (origin : Option ConnectionId) {conns : List ConnectionId}
    (hnodup : conns.Nodup) (count : Nat) (connections : Connections) :
    conns.foldl (offer event origin) (count, connections) =
      let taking := conns.filter fun conn => origin != some conn && connections.takesEvents conn
      (count + taking.length,
        taking.foldl (fun connections conn => connections.modifyOutbox conn (·.push event))
          connections) := by
  induction conns generalizing count connections with
  | nil => rfl
  | cons conn rest ih =>
    obtain ⟨hconn, hrest⟩ := List.nodup_cons.1 hnodup
    rw [List.foldl_cons, offer]
    by_cases htakes : (origin != some conn && connections.takesEvents conn) = true
    · -- those that come later take it just as they did before
      have hsame : ∀ other ∈ rest, (origin != some other &&
            (connections.modifyOutbox conn (·.push event)).takesEvents other) =
          (origin != some other && connections.takesEvents other) := by
        intro other hother
        have hne : conn ≠ other := fun heq => hconn (heq ▸ hother)
        rw [takesEvents_modifyOutbox_of_ne hne]
      rw [if_pos htakes, ih hrest]
      simp only [List.filter_cons, htakes, if_true, List.filter_congr hsame, List.length_cons,
        List.foldl_cons, Prod.mk.injEq, and_true]
      omega
    · rw [if_neg htakes, ih hrest]
      simp only [List.filter_cons, htakes, Bool.false_eq_true, if_false]

/-- To ask all subscribers first comes to the same as to ask each at its turn. -/
theorem broadcast_eq_foldl_offer (connections : Connections) (id : CharacteristicId) (value : Json)
    (origin : Option ConnectionId) :
    connections.broadcast id value origin =
      (connections.registry.subscribersOf id).foldl (offer (.event (eventMessage id value)) origin)
        (0, connections) := by
  have hloop := foldl_offer (.event (eventMessage id value)) origin
    (nodup_subscribersOf connections.registry id) 0 connections
  simp only [Nat.zero_add] at hloop
  exact hloop.symm

end Connections

/-! ## Several broadcasts -/

/-- A new value of a characteristic, and the connection that it came from. -/
structure ValueChange where
  id : CharacteristicId
  value : Json
  origin : Option ConnectionId

def ValueChange.event (change : ValueChange) : Outgoing :=
  .event (eventMessage change.id change.value)

namespace Connections

variable {connections : Connections}

/-- Broadcasts changes one after another. -/
def broadcastAll (connections : Connections) (changes : List ValueChange) : Connections :=
  changes.foldl (fun connections change =>
    (connections.broadcast change.id change.value change.origin).2) connections

/-- To a queue a broadcast is a message that it is offered, if the connection is to be told. -/
theorem outbox?_broadcast_eq_offer (h : connections.registry.Indexed) (change : ValueChange)
    (conn : ConnectionId) :
    (connections.broadcast change.id change.value change.origin).2.outbox? conn =
      if connections.awaits change.id change.origin conn then
        (connections.outbox? conn).map (·.offer change.event)
      else connections.outbox? conn := by
  rw [outbox?_broadcast h, Outbox.map_offer]
  unfold hears
  simp only [Bool.and_eq_true, ite_and]
  rfl

theorem outbox?_broadcastAll (h : connections.registry.Indexed) (changes : List ValueChange)
    (conn : ConnectionId) :
    (connections.broadcastAll changes).outbox? conn =
      (connections.outbox? conn).map fun outbox =>
        ((changes.filter fun change => connections.awaits change.id change.origin conn).map
          ValueChange.event).foldl Outbox.offer outbox := by
  induction changes generalizing connections with
  | nil =>
    simp only [List.filter_nil, List.map_nil, List.foldl_nil, Option.map_id']
    rfl
  | cons change rest ih =>
    have hregistry := connections.broadcast_registry change.id change.value change.origin
    have hrest := @ih (connections.broadcast change.id change.value change.origin).2
      (hregistry ▸ h)
    -- who is to be told is read off the sessions, which a broadcast leaves alone
    unfold awaits at hrest ⊢
    rw [hregistry] at hrest
    refine hrest.trans ?_
    rw [outbox?_broadcast_eq_offer h, awaits, List.filter_cons]
    split
    · rw [Option.map_map]
      rfl
    · rfl

/-! ## Runs -/

/-- What happens to connections. -/
inductive Happening where
  | call (conn : ConnectionId) (call : ConnectionCall)
  | broadcast (change : ValueChange)
  /-- The queue of a connection is used: messages are put into it or taken from it, or there is
  nobody left who sends them. -/
  | use (conn : ConnectionId) (f : Outbox → Outbox)

def happen (suite : CipherSuite) (connections : Connections) : Happening → Connections
  | .call conn call => connections.call suite conn call
  | .broadcast change => (connections.broadcast change.id change.value change.origin).2
  | .use conn f => connections.modifyOutbox conn f

def run (suite : CipherSuite) (connections : Connections) (happenings : List Happening) :
    Connections :=
  happenings.foldl (happen suite) connections

theorem happen_indexed (suite : CipherSuite) (h : connections.registry.Indexed)
    (happening : Happening) : (connections.happen suite happening).registry.Indexed := by
  cases happening with
  | call conn call => exact call_indexed suite h conn call
  | broadcast change =>
    rw [happen, broadcast_registry]
    exact h
  | use conn f =>
    rw [happen, modifyOutbox_registry]
    exact h

theorem run_indexed (suite : CipherSuite) (h : connections.registry.Indexed)
    (happenings : List Happening) : (connections.run suite happenings).registry.Indexed := by
  induction happenings generalizing connections with
  | nil => exact h
  | cons happening rest ih => exact ih (happen_indexed suite h happening)

/-- Whatever has happened to the connections: a broadcast puts one event into the queue of each
connection that hears it, leaves all others and all sessions as they are, and counts the events.
What becomes of one connection does not depend on the queues of the others, although each is asked
only at its turn. Of several broadcasts a connection gets those that are for it, in order, up to the
first that there is no room for. -/
theorem broadcast_reaches (suite : CipherSuite) (happenings : List Happening)
    (id : CharacteristicId) (value : Json) (origin : Option ConnectionId) :
    let before := ({} : Connections).run suite happenings
    let told := before.broadcast id value origin
    told.2.registry = before.registry ∧
      (∃ reached : List ConnectionId, reached.Nodup ∧ told.1 = reached.length ∧
        ∀ conn, conn ∈ reached ↔ before.hears id origin conn = true) ∧
      (∀ conn, told.2.outbox? conn =
        if before.hears id origin conn then
          (before.outbox? conn).map (·.push (.event (eventMessage id value)))
        else before.outbox? conn) ∧
      (∀ (outboxes : ExtTreeMap ConnectionId Outbox) (conn : ConnectionId),
        outboxes[conn]? = before.outbox? conn →
          ({ before with outboxes }.broadcast id value origin).2.outbox? conn =
            told.2.outbox? conn) ∧
      told = (before.registry.subscribersOf id).foldl
        (offer (.event (eventMessage id value)) origin) (0, before) ∧
      ∀ (changes : List ValueChange) (conn : ConnectionId),
        (before.broadcastAll changes).outbox? conn = (before.outbox? conn).map fun outbox =>
          outbox.queue (((changes.filter fun change =>
            before.awaits change.id change.origin conn).map ValueChange.event).take
          outbox.room) := by
  intro before told
  have hindexed : before.registry.Indexed := run_indexed suite empty_indexed happenings
  refine ⟨?_, ⟨before.recipients id origin, ?_, rfl, ?_⟩, ?_, ?_, ?_, ?_⟩
  · exact before.broadcast_registry id value origin
  · exact before.nodup_recipients id origin
  · exact fun conn => mem_recipients_iff hindexed
  · exact outbox?_broadcast hindexed
  · intro outboxes conn hsame
    let after : Connections := { before with outboxes }
    have hother : after.outbox? conn = before.outbox? conn := hsame
    have hhears : after.hears id origin conn = before.hears id origin conn := by
      unfold hears
      rw [hother]
      rfl
    have hafter : after.registry.Indexed := hindexed
    have hreached := @outbox?_broadcast after id value origin hafter conn
    rw [hhears, hother] at hreached
    exact hreached.trans (outbox?_broadcast hindexed conn).symm
  · exact before.broadcast_eq_foldl_offer id value origin
  · intro changes conn
    rw [outbox?_broadcastAll hindexed]
    simp only [Outbox.foldl_offer]

end Connections

end HomeKit
