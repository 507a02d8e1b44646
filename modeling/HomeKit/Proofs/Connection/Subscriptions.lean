import HomeKit.Proofs.Connection.Nonces

/-!
# The two tables of subscriptions

A subscription is kept twice: the session has the characteristic in its set, and the index lists the
connection under the characteristic. Whatever is called on any connections, the two tables say the
same and no set of the index is empty (`Registry.Indexed`, `Connections.callAll_indexed`). So a
connection that is removed is listed nowhere, and all others are subscribed as before
(`Connections.subscriptions_agree`).
-/

namespace HomeKit

open Std (ExtTreeMap ExtTreeSet)

namespace Registry

variable {registry : Registry} {conn other : ConnectionId} {id subscribed : CharacteristicId}

/-! ## The two tables -/

/-- The connection has a session that is subscribed to the characteristic. -/
def IsSubscribed (registry : Registry) (conn : ConnectionId) (id : CharacteristicId) : Prop :=
  ∃ session, registry.session? conn = some session ∧ id ∈ session.subscriptions

/-- The index has the connection in the set of the characteristic. -/
def IsListed (registry : Registry) (conn : ConnectionId) (id : CharacteristicId) : Prop :=
  ∃ conns, registry.subscribers[id]? = some conns ∧ conn ∈ conns

/-- No characteristic has an empty set. -/
def HasNoEmptySet (subscribers : ExtTreeMap CharacteristicId (ExtTreeSet ConnectionId)) : Prop :=
  ∀ (id : CharacteristicId) (conns : ExtTreeSet ConnectionId), subscribers[id]? = some conns →
    conns ≠ ∅

/-- The index says the same as the sessions, and keeps no empty set. -/
structure Indexed (registry : Registry) : Prop where
  listed_iff : ∀ conn id, registry.IsListed conn id ↔ registry.IsSubscribed conn id
  nonempty : HasNoEmptySet registry.subscribers

theorem isSubscribed_iff :
    registry.IsSubscribed conn id ↔ id ∈ (registry.session conn).subscriptions := by
  unfold IsSubscribed session
  cases registry.session? conn with
  | none =>
    constructor
    · rintro ⟨session, h, -⟩
      cases h
    · intro h
      exact absurd h ExtTreeSet.not_mem_empty
  | some session => simp

theorem isListed_iff : registry.IsListed conn id ↔ conn ∈ (registry.subscribers[id]?).getD ∅ := by
  unfold IsListed
  cases registry.subscribers[id]? with
  | none =>
    constructor
    · rintro ⟨conns, h, -⟩
      cases h
    · intro h
      exact absurd h ExtTreeSet.not_mem_empty
  | some conns => simp

/-- A set is not empty once something is in it. -/
theorem ne_empty_of_mem {conns : ExtTreeSet ConnectionId} (h : conn ∈ conns) : conns ≠ ∅ := by
  rintro rfl
  exact ExtTreeSet.not_mem_empty h

/-! ## Empty sets -/

section HasNoEmptySet

variable {subscribers : ExtTreeMap CharacteristicId (ExtTreeSet ConnectionId)}

theorem HasNoEmptySet.index (h : HasNoEmptySet subscribers) (id : CharacteristicId)
    (conn : ConnectionId) : HasNoEmptySet (index subscribers id conn) := by
  intro found conns hfound
  rw [Registry.index, ExtTreeMap.getElem?_insert] at hfound
  split at hfound
  · cases hfound
    exact ne_empty_of_mem ExtTreeSet.mem_insert_self
  · exact h found conns hfound

theorem HasNoEmptySet.unindex (h : HasNoEmptySet subscribers) (id : CharacteristicId)
    (conn : ConnectionId) : HasNoEmptySet (unindex subscribers id conn) := by
  unfold Registry.unindex
  split
  · exact h
  · simp only
    split
    · intro found conns hfound
      rw [ExtTreeMap.getElem?_erase] at hfound
      split at hfound
      · cases hfound
      · exact h found conns hfound
    · rename_i hleft
      intro found conns hfound
      rw [ExtTreeMap.getElem?_insert] at hfound
      split at hfound
      · cases hfound
        rintro hempty
        exact hleft (ExtTreeSet.isEmpty_iff.2 hempty)
      · exact h found conns hfound

theorem HasNoEmptySet.foldl_unindex (h : HasNoEmptySet subscribers) (ids : List CharacteristicId)
    (conn : ConnectionId) :
    HasNoEmptySet (ids.foldl (fun subscribers id => Registry.unindex subscribers id conn)
      subscribers) := by
  induction ids generalizing subscribers with
  | nil => exact h
  | cons id rest ih => exact ih (h.unindex id conn)

end HasNoEmptySet

/-! ## What changes them -/

/-- Whatever is done to a session but to its subscriptions leaves both tables alone. -/
theorem Indexed.modify (h : registry.Indexed) (conn : ConnectionId) {f : Session → Session}
    (hf : ∀ session, (f session).subscriptions = session.subscriptions) :
    (registry.modify conn f).Indexed := by
  refine ⟨fun other id => ?_, h.nonempty⟩
  have hlisted : (registry.modify conn f).IsListed other id ↔ registry.IsListed other id := Iff.rfl
  rw [hlisted, h.listed_iff, isSubscribed_iff, isSubscribed_iff, session_modify]
  split
  · rename_i heq
    subst heq
    rw [hf]
  · rfl

theorem Indexed.setCipher (h : registry.Indexed) (conn : ConnectionId) (cipher : FrameCipher) :
    (registry.setCipher conn cipher).Indexed := by
  rw [Registry.setCipher]
  refine h.modify conn ?_
  exact fun _ => rfl

theorem isSubscribed_subscribe :
    (registry.subscribe conn subscribed).IsSubscribed other id ↔
      (subscribed = id ∧ conn = other) ∨ registry.IsSubscribed other id := by
  have hsession : (registry.subscribe conn subscribed).session other =
      (registry.modify conn fun session =>
        { session with subscriptions := session.subscriptions.insert subscribed }).session other :=
    rfl
  rw [isSubscribed_iff, isSubscribed_iff, hsession, session_modify]
  by_cases hconn : conn = other
  · subst hconn
    simp [ExtTreeSet.mem_insert]
  · simp [hconn]

theorem isSubscribed_unsubscribe :
    (registry.unsubscribe conn subscribed).IsSubscribed other id ↔
      registry.IsSubscribed other id ∧ ¬ (subscribed = id ∧ conn = other) := by
  have hsession : (registry.unsubscribe conn subscribed).session other =
      (registry.modify conn fun session =>
        { session with subscriptions := session.subscriptions.erase subscribed }).session other :=
    rfl
  rw [isSubscribed_iff, isSubscribed_iff, hsession, session_modify]
  by_cases hconn : conn = other
  · subst hconn
    simp [ExtTreeSet.mem_erase, and_comm]
  · simp [hconn]

theorem Indexed.setSubscription (h : registry.Indexed) (conn : ConnectionId)
    (subscribed : CharacteristicId) (on : Bool) :
    (registry.setSubscription conn subscribed on).Indexed := by
  cases on with
  | true =>
    refine ⟨fun other id => ?_, h.nonempty.index subscribed conn⟩
    rw [isListed_iff]
    have hindex := @mem_index_iff conn other registry.subscribers subscribed id
    rw [← isListed_iff, h.listed_iff, ← isSubscribed_subscribe] at hindex
    exact hindex
  | false =>
    refine ⟨fun other id => ?_, h.nonempty.unindex subscribed conn⟩
    rw [isListed_iff]
    have hunindex := @mem_unindex_iff conn other registry.subscribers subscribed id
    rw [← isListed_iff, h.listed_iff, ← isSubscribed_unsubscribe] at hunindex
    exact hunindex

theorem isSubscribed_remove :
    (registry.remove conn).IsSubscribed other id ↔
      conn ≠ other ∧ registry.IsSubscribed other id := by
  unfold IsSubscribed
  by_cases hconn : conn = other
  · subst hconn
    simp [session?_remove]
  · simp [session?_remove_of_ne registry hconn, hconn]

/-- The connection goes from the sets of its own subscriptions, which are all that it is in. -/
theorem isListed_remove (h : registry.Indexed) :
    (registry.remove conn).IsListed other id ↔ conn ≠ other ∧ registry.IsListed other id := by
  unfold remove
  cases hsession : registry.session? conn with
  | none =>
    -- without a session the connection is in no set
    have hunlisted : registry.IsListed other id → conn ≠ other := by
      intro hlisted heq
      subst heq
      obtain ⟨session, hfound, -⟩ := (h.listed_iff conn id).1 hlisted
      rw [hsession] at hfound
      cases hfound
    exact ⟨fun hlisted => ⟨hunlisted hlisted, hlisted⟩, And.right⟩
  | some session =>
    have hmem := @mem_foldl_unindex_iff conn other registry.subscribers
      session.subscriptions.toList id
    rw [← isListed_iff, ExtTreeSet.mem_toList] at hmem
    rw [isListed_iff]
    refine hmem.trans ⟨?_, ?_⟩
    · rintro ⟨hlisted, hnot⟩
      refine ⟨?_, hlisted⟩
      rintro rfl
      obtain ⟨found, hfound, hin⟩ := (h.listed_iff conn id).1 hlisted
      rw [hsession] at hfound
      cases hfound
      exact hnot ⟨hin, rfl⟩
    · rintro ⟨hne, hlisted⟩
      exact ⟨hlisted, fun hsame => hne hsame.2⟩

theorem Indexed.remove (h : registry.Indexed) (conn : ConnectionId) :
    (registry.remove conn).Indexed := by
  refine ⟨fun other id => ?_, ?_⟩
  · rw [isListed_remove h, isSubscribed_remove, h.listed_iff]
  · unfold Registry.remove
    split
    · exact h.nonempty
    · exact h.nonempty.foldl_unindex _ conn

end Registry

/-! ## All calls -/

namespace Connections

variable {connections : Connections}

/-- Makes calls one after another. -/
def callAll (suite : CipherSuite) (connections : Connections)
    (history : List (ConnectionId × ConnectionCall)) : Connections :=
  history.foldl (fun connections (conn, call) => connections.call suite conn call) connections

theorem call_indexed (suite : CipherSuite) (h : connections.registry.Indexed)
    (conn : ConnectionId) (call : ConnectionCall) :
    (connections.call suite conn call).registry.Indexed := by
  cases call with
  | change f =>
    simp only [Connections.call, call.onRegistry]
    refine h.modify conn ?_
    exact fun _ => rfl
  | attach capacity =>
    simp only [Connections.call, Connections.attach, Registry.attach]
    refine h.modify conn ?_
    exact fun _ => rfl
  | detach =>
    simp only [Connections.call, call.onRegistry]
    cases hsession : connections.registry.session? conn with
    | none =>
      simp only [Registry.detach, hsession]
      exact h
    | some session =>
      rw [Registry.detach_eq_modify hsession]
      exact h.modify conn fun _ => rfl
  | stage controller keys =>
    simp only [Connections.call, call.onRegistry, Registry.stage]
    refine h.modify conn ?_
    exact fun _ => rfl
  | activate =>
    simp only [Connections.call, call.onRegistry, Registry.activate]
    split
    · exact h.modify conn fun _ => rfl
    · exact h
  | encrypt plaintext =>
    simp only [Connections.call, call.onRegistry]
    rcases connections.registry.encrypt_cases suite conn plaintext with
      ⟨-, heq⟩ | ⟨-, heq⟩ | ⟨cipher, -, heq⟩
    · rw [heq]
      exact h
    · rw [heq]
      exact h
    · rw [heq]
      exact h.setCipher conn _
  | decrypt raw =>
    simp only [Connections.call, call.onRegistry]
    rcases connections.registry.decrypt_cases suite conn raw with
      ⟨-, heq⟩ | ⟨-, heq⟩ | ⟨cipher, -, heq⟩
    · rw [heq]
      exact h
    · rw [heq]
      exact h
    · rw [heq]
      exact h.setCipher conn _
  | subscribe id on => exact h.setSubscription conn id on
  | remove => exact h.remove conn

theorem callAll_indexed (suite : CipherSuite) (h : connections.registry.Indexed)
    (history : List (ConnectionId × ConnectionCall)) :
    (connections.callAll suite history).registry.Indexed := by
  induction history generalizing connections with
  | nil => exact h
  | cons next rest ih => exact ih (call_indexed suite h next.1 next.2)

theorem empty_indexed : ({} : Connections).registry.Indexed := by
  refine ⟨fun conn id => ?_, ?_⟩
  · constructor
    · rintro ⟨conns, h, -⟩
      cases h
    · rintro ⟨session, h, -⟩
      cases h
  · intro id conns h
    cases h

/-- Whatever is called on any connections, known ones and unknown ones: the index lists a connection
under a characteristic exactly if it has a session that is subscribed to it, and keeps no empty set.
A connection that is then removed is listed nowhere, while all other sessions, and where they are
listed, stay the same. -/
theorem subscriptions_agree (suite : CipherSuite)
    (history : List (ConnectionId × ConnectionCall)) :
    let registry := (({} : Connections).callAll suite history).registry
    (∀ conn id, registry.IsListed conn id ↔ registry.IsSubscribed conn id) ∧
      (∀ (id : CharacteristicId) (conns : ExtTreeSet ConnectionId),
        registry.subscribers[id]? = some conns → conns ≠ ∅) ∧
      ∀ conn, let after := registry.remove conn
        after.session? conn = none ∧ (∀ id, ¬ after.IsListed conn id) ∧
          ∀ other, conn ≠ other → after.session? other = registry.session? other ∧
            ∀ id, after.IsListed other id ↔ registry.IsListed other id := by
  intro registry
  have hindexed : registry.Indexed := callAll_indexed suite empty_indexed history
  refine ⟨hindexed.listed_iff, hindexed.nonempty, fun conn => ⟨?_, ?_, ?_⟩⟩
  · exact registry.session?_remove conn
  · intro id hlisted
    exact ((Registry.isListed_remove hindexed).1 hlisted).1 rfl
  · intro other hne
    refine ⟨registry.session?_remove_of_ne hne, fun id => ?_⟩
    rw [Registry.isListed_remove hindexed]
    exact and_iff_right hne

end Connections

end HomeKit
