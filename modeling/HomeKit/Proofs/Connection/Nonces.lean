import HomeKit.Connection.Outbox
import HomeKit.Proofs.Connection.Credentials
import HomeKit.Proofs.Connection.FrameLog
import Mathlib.Logic.Function.Basic

/-!
# Nonces of a connection

A session gets a new cipher whenever staged keys are activated. Between two activations every frame
of a direction takes the next number, from zero on, whatever else is done on this and on other
connections and whichever calls fail; so no nonce is taken twice with one key
(`Registry.nonces_in_order`). A call that fails keeps the numbers of the frames that it sealed or
opened before; the frame that it was refused for takes none.

Whatever is done on one connection leaves the sessions of all others as they are
(`Connections.Untouched`).
-/

namespace HomeKit

open Std (ExtTreeMap ExtTreeSet)

/-! ## Calls -/

/-- The fields of a session that are open to everyone. -/
structure OpenFields where
  hasPeer : Bool
  pairSetup : Option PairSetup
  pairVerify : Option PairVerify
  controller : Option String

namespace Session

/-- The fields of the session that are open to everyone. -/
def openFields (session : Session) : OpenFields where
  hasPeer := session.hasPeer
  pairSetup := session.pairSetup
  pairVerify := session.pairVerify
  controller := session.controller

/-- Replaces the fields that are open to everyone. -/
def setOpenFields (session : Session) (fields : OpenFields) : Session :=
  { session with
    hasPeer := fields.hasPeer
    pairSetup := fields.pairSetup
    pairVerify := fields.pairVerify
    controller := fields.controller }

end Session

/-- What is done on one connection. -/
inductive ConnectionCall where
  | change (f : OpenFields → OpenFields)
  | attach (capacity : Nat)
  | detach
  | stage (controller : String) (keys : SessionKeys)
  | activate
  | encrypt (plaintext : Bytes)
  | decrypt (raw : Bytes)
  | subscribe (id : CharacteristicId) (on : Bool)
  | remove

namespace Connections

/-- Makes a call on a connection. -/
def call (suite : CipherSuite) (connections : Connections) (conn : ConnectionId) :
    ConnectionCall → Connections
  | .attach capacity => connections.attach conn capacity
  | .change f => onRegistry (·.modify conn fun session =>
      session.setOpenFields (f session.openFields))
  | .detach => onRegistry (·.detach conn)
  | .stage controller keys => onRegistry (·.stage conn controller keys)
  | .activate => onRegistry (·.activate conn)
  | .encrypt plaintext => onRegistry fun registry => (registry.encrypt suite conn plaintext).2
  | .decrypt raw => onRegistry fun registry => (registry.decrypt suite conn raw).2
  | .subscribe id on => onRegistry (·.setSubscription conn id on)
  | .remove => onRegistry (·.remove conn)
where
  onRegistry (f : Registry → Registry) : Connections :=
    { connections with registry := f connections.registry }

end Connections

/-! ## Other connections -/

namespace Registry

variable {registry : Registry} {conn other : ConnectionId}

theorem mem_subscribersOf {id : CharacteristicId} :
    conn ∈ registry.subscribersOf id ↔ conn ∈ (registry.subscribers[id]?).getD ∅ := by
  rw [subscribersOf, ExtTreeSet.mem_toList]

/-- The cipher of a connection. -/
def cipher? (registry : Registry) (conn : ConnectionId) : Option FrameCipher :=
  (registry.session? conn).bind (·.cipher)

theorem encrypt_cases (suite : CipherSuite) (registry : Registry) (conn : ConnectionId)
    (plaintext : Bytes) :
    (registry.session? conn = none ∧
        registry.encrypt suite conn plaintext = (.error (.unknownConnection conn), registry)) ∨
      (registry.cipher? conn = none ∧
        registry.encrypt suite conn plaintext = (.ok plaintext, registry)) ∨
      ∃ cipher, registry.cipher? conn = some cipher ∧
        registry.encrypt suite conn plaintext =
          ((cipher.encrypt suite plaintext).1.mapError cipherFailure,
            registry.setCipher conn (cipher.encrypt suite plaintext).2) := by
  unfold encrypt cipher?
  cases hsession : registry.session? conn with
  | none => exact Or.inl ⟨rfl, rfl⟩
  | some session =>
    cases hcipher : session.cipher with
    | none => exact Or.inr (Or.inl ⟨hcipher, by simp only [hcipher]⟩)
    | some cipher => exact Or.inr (Or.inr ⟨cipher, hcipher, by simp only [hcipher]⟩)

theorem decrypt_cases (suite : CipherSuite) (registry : Registry) (conn : ConnectionId)
    (raw : Bytes) :
    (registry.session? conn = none ∧
        registry.decrypt suite conn raw = (.error (.unknownConnection conn), registry)) ∨
      (registry.cipher? conn = none ∧
        registry.decrypt suite conn raw = (.ok (raw, []), registry)) ∨
      ∃ cipher, registry.cipher? conn = some cipher ∧
        registry.decrypt suite conn raw =
          ((decryptFrames suite raw.length cipher raw).1,
            registry.setCipher conn (decryptFrames suite raw.length cipher raw).2) := by
  unfold decrypt cipher?
  cases hsession : registry.session? conn with
  | none => exact Or.inl ⟨rfl, rfl⟩
  | some session =>
    cases hcipher : session.cipher with
    | none => exact Or.inr (Or.inl ⟨hcipher, by simp only [hcipher]⟩)
    | some cipher => exact Or.inr (Or.inr ⟨cipher, hcipher, by simp only [hcipher]⟩)

theorem encrypt_of_cipher? (suite : CipherSuite) {cipher : FrameCipher}
    (hcipher : registry.cipher? conn = some cipher) (plaintext : Bytes) :
    registry.encrypt suite conn plaintext =
      ((cipher.encrypt suite plaintext).1.mapError cipherFailure,
        registry.setCipher conn (cipher.encrypt suite plaintext).2) := by
  rcases registry.encrypt_cases suite conn plaintext with
    ⟨hnone, -⟩ | ⟨hnone, -⟩ | ⟨found, hfound, heq⟩
  · rw [cipher?, hnone] at hcipher
    cases hcipher
  · rw [hnone] at hcipher
    cases hcipher
  · rw [hcipher] at hfound
    cases hfound
    exact heq

theorem decrypt_of_cipher? (suite : CipherSuite) {cipher : FrameCipher}
    (hcipher : registry.cipher? conn = some cipher) (raw : Bytes) :
    registry.decrypt suite conn raw =
      ((decryptFrames suite raw.length cipher raw).1,
        registry.setCipher conn (decryptFrames suite raw.length cipher raw).2) := by
  rcases registry.decrypt_cases suite conn raw with
    ⟨hnone, -⟩ | ⟨hnone, -⟩ | ⟨found, hfound, heq⟩
  · rw [cipher?, hnone] at hcipher
    cases hcipher
  · rw [hnone] at hcipher
    cases hcipher
  · rw [hcipher] at hfound
    cases hfound
    exact heq

section Index

variable {subscribers : ExtTreeMap CharacteristicId (ExtTreeSet ConnectionId)}

theorem mem_index_iff (id subscribed : CharacteristicId) :
    other ∈ ((index subscribers id conn)[subscribed]?).getD ∅ ↔
      (id = subscribed ∧ conn = other) ∨ other ∈ (subscribers[subscribed]?).getD ∅ := by
  unfold index
  rw [ExtTreeMap.getElem?_insert]
  split
  · rename_i heq
    cases Std.LawfulEqOrd.eq_of_compare heq
    simp [ExtTreeSet.mem_insert]
  · rename_i hne
    have hid : id ≠ subscribed := by
      rintro rfl
      exact hne Std.ReflCmp.compare_self
    simp [hid]

theorem mem_unindex_iff (id subscribed : CharacteristicId) :
    other ∈ ((unindex subscribers id conn)[subscribed]?).getD ∅ ↔
      other ∈ (subscribers[subscribed]?).getD ∅ ∧ ¬ (id = subscribed ∧ conn = other) := by
  unfold unindex
  cases hfound : subscribers[id]? with
  | none =>
    -- the characteristic has no set that the connection could be in
    have hnone : id = subscribed → other ∉ (subscribers[subscribed]?).getD ∅ := by
      rintro rfl
      rw [hfound]
      exact ExtTreeSet.not_mem_empty
    exact ⟨fun hmem => ⟨hmem, fun hsame => hnone hsame.1 hmem⟩, And.left⟩
  | some conns =>
    have herase : other ∈ conns.erase conn ↔ other ∈ conns ∧ ¬ conn = other := by
      rw [ExtTreeSet.mem_erase, ne_eq, Std.LawfulEqOrd.compare_eq_iff_eq, and_comm]
    simp only
    by_cases hid : id = subscribed
    · cases hid
      rw [hfound, Option.getD_some]
      simp only [true_and]
      rw [← herase]
      split
      · rename_i hempty
        rw [ExtTreeMap.getElem?_erase_self, ExtTreeSet.isEmpty_iff.1 hempty]
        rfl
      · rw [ExtTreeMap.getElem?_insert_self]
        rfl
    · have hcompare : ¬ compare id subscribed = .eq := by
        intro heq
        exact hid (Std.LawfulEqOrd.eq_of_compare heq)
      simp only [hid, false_and, not_false_eq_true, and_true]
      split
      · rw [ExtTreeMap.getElem?_erase, if_neg hcompare]
      · rw [ExtTreeMap.getElem?_insert, if_neg hcompare]

theorem mem_foldl_unindex_iff (ids : List CharacteristicId) (subscribed : CharacteristicId) :
    other ∈ ((ids.foldl (fun subscribers id => unindex subscribers id conn)
        subscribers)[subscribed]?).getD ∅ ↔
      other ∈ (subscribers[subscribed]?).getD ∅ ∧ ¬ (subscribed ∈ ids ∧ conn = other) := by
  induction ids generalizing subscribers with
  | nil => simp
  | cons id rest ih =>
    rw [List.foldl_cons, ih, mem_unindex_iff, List.mem_cons]
    constructor
    · rintro ⟨⟨hmem, hfirst⟩, hrest⟩
      refine ⟨hmem, ?_⟩
      rintro ⟨rfl | hin, hconn⟩
      · exact hfirst ⟨rfl, hconn⟩
      · exact hrest ⟨hin, hconn⟩
    · rintro ⟨hmem, hnone⟩
      exact ⟨⟨hmem, fun h => hnone ⟨.inl h.1.symm, h.2⟩⟩, fun h => hnone ⟨.inr h.1, h.2⟩⟩

end Index

end Registry

namespace Connections

/-- The connection is as it was: its session, what waits to be sent on it, and where it is
subscribed. -/
structure Untouched (before after : Connections) (conn : ConnectionId) : Prop where
  session : after.registry.session? conn = before.registry.session? conn
  outbox : after.outbox? conn = before.outbox? conn
  subscribed : ∀ id,
    conn ∈ after.registry.subscribersOf id ↔ conn ∈ before.registry.subscribersOf id

theorem Untouched.refl (connections : Connections) (conn : ConnectionId) :
    Untouched connections connections conn :=
  ⟨rfl, rfl, fun _ => Iff.rfl⟩

theorem Untouched.of_modify {connections : Connections} {conn other : ConnectionId}
    (hne : conn ≠ other) (f : Session → Session) :
    Untouched connections { connections with registry := connections.registry.modify conn f }
      other := by
  refine ⟨?_, rfl, fun _ => Iff.rfl⟩
  simp only [Registry.session?_modify, if_neg hne]

/-- A call on one connection leaves the others as they are. -/
theorem call_untouched (suite : CipherSuite) (connections : Connections)
    {conn other : ConnectionId} (hne : conn ≠ other) (call : ConnectionCall) :
    Untouched connections (connections.call suite conn call) other := by
  cases call with
  | change f => exact .of_modify hne _
  | attach capacity =>
    obtain ⟨hsession, -, hsubscribed⟩ := @Untouched.of_modify connections _ _ hne
      fun session => { session with hasPeer := true, isAttached := true }
    refine ⟨hsession, ?_, hsubscribed⟩
    simp only [Connections.call, attach, outbox?, ExtTreeMap.getElem?_insert,
      Std.LawfulEqOrd.compare_eq_iff_eq, if_neg hne]
  | detach =>
    simp only [Connections.call, call.onRegistry]
    cases hsession : connections.registry.session? conn with
    | none =>
      simp only [Registry.detach, hsession]
      exact .refl connections other
    | some session =>
      rw [Registry.detach_eq_modify hsession]
      exact .of_modify hne _
  | stage controller keys => exact .of_modify hne _
  | activate =>
    simp only [Connections.call, call.onRegistry, Registry.activate]
    split
    · exact .of_modify hne _
    · exact .refl connections other
  | encrypt plaintext =>
    simp only [Connections.call, call.onRegistry]
    rcases connections.registry.encrypt_cases suite conn plaintext with
      ⟨-, heq⟩ | ⟨-, heq⟩ | ⟨cipher, -, heq⟩
    · rw [heq]
      exact .refl connections other
    · rw [heq]
      exact .refl connections other
    · rw [heq]
      simp only [Registry.setCipher]
      exact .of_modify hne _
  | decrypt raw =>
    simp only [Connections.call, call.onRegistry]
    rcases connections.registry.decrypt_cases suite conn raw with
      ⟨-, heq⟩ | ⟨-, heq⟩ | ⟨cipher, -, heq⟩
    · rw [heq]
      exact .refl connections other
    · rw [heq]
      exact .refl connections other
    · rw [heq]
      simp only [Registry.setCipher]
      exact .of_modify hne _
  | subscribe id on =>
    simp only [Connections.call, call.onRegistry, Registry.setSubscription]
    cases on with
    | true =>
      obtain ⟨hsession, -, -⟩ := @Untouched.of_modify connections _ _ hne
        fun session => { session with subscriptions := session.subscriptions.insert id }
      refine ⟨hsession, rfl, fun subscribed => ?_⟩
      rw [Registry.mem_subscribersOf, Registry.mem_subscribersOf]
      exact (Registry.mem_index_iff id subscribed).trans (or_iff_right fun hsame => hne hsame.2)
    | false =>
      obtain ⟨hsession, -, -⟩ := @Untouched.of_modify connections _ _ hne
        fun session => { session with subscriptions := session.subscriptions.erase id }
      refine ⟨hsession, rfl, fun subscribed => ?_⟩
      rw [Registry.mem_subscribersOf, Registry.mem_subscribersOf]
      exact (Registry.mem_unindex_iff id subscribed).trans (and_iff_left fun hsame => hne hsame.2)
  | remove =>
    simp only [Connections.call, call.onRegistry, Registry.remove]
    split
    · exact .refl connections other
    · refine ⟨?_, rfl, fun subscribed => ?_⟩
      · simp only [Registry.session?, ExtTreeMap.getElem?_erase,
          Std.LawfulEqOrd.compare_eq_iff_eq, if_neg hne]
      · rw [Registry.mem_subscribersOf, Registry.mem_subscribersOf]
        rw [Registry.mem_foldl_unindex_iff]
        exact and_iff_left fun hsame => hne hsame.2

end Connections

/-! ## One call -/

namespace Registry

variable {suite : CipherSuite} {registry : Registry} {conn : ConnectionId}

/-- The frames that a call makes of plain text. -/
def sealedBy (suite : CipherSuite) (registry : Registry) (conn : ConnectionId)
    (plaintext : Bytes) : List FrameRecord :=
  match registry.cipher? conn with
  | none => []
  | some cipher => cipher.sealedPieces suite (chunks Frame.maxPlaintext plaintext)

/-- The frames that a call opens. -/
def openedBy (suite : CipherSuite) (registry : Registry) (conn : ConnectionId) (raw : Bytes) :
    List FrameRecord :=
  match registry.cipher? conn with
  | none => []
  | some cipher => openedFrames suite raw.length cipher raw

theorem cipher?_eq (registry : Registry) (conn : ConnectionId) :
    registry.cipher? conn = (registry.session conn).cipher := by
  unfold cipher? session
  cases registry.session? conn with
  | none => rfl
  | some session => rfl

theorem cipher?_modify_self (f : Session → Session) :
    (registry.modify conn f).cipher? conn = (f (registry.session conn)).cipher := by
  rw [cipher?_eq, session_modify, if_pos rfl]

theorem cipher?_setCipher (cipher : FrameCipher) :
    (registry.setCipher conn cipher).cipher? conn = some cipher :=
  cipher?_modify_self _

/-- A cipher that is put back changes nothing. -/
theorem setCipher_self {cipher : FrameCipher} (h : registry.cipher? conn = some cipher) :
    registry.setCipher conn cipher = registry := by
  obtain ⟨session, hsession, hcipher⟩ := Option.bind_eq_some_iff.1 h
  have hsame : ({ session with cipher := some cipher } : Session) = session := by
    rw [← hcipher]
  have hinsert : registry.sessions.insert conn session = registry.sessions := by
    refine ExtTreeMap.ext_getElem? fun other => ?_
    rw [ExtTreeMap.getElem?_insert]
    split
    · rename_i heq
      cases Std.LawfulEqOrd.eq_of_compare heq
      exact hsession.symm
    · rfl
  unfold setCipher modify
  rw [session_of_session? hsession]
  simp only [hsame, hinsert]

/-- What calls on a connection give, in terms of the frames that they seal and open. -/
structure Accountable (suite : CipherSuite) (registry : Registry) (conn : ConnectionId) : Prop where
  sealed : ∀ plaintext wire, (registry.cipher? conn).isSome = true →
    (registry.encrypt suite conn plaintext).1 = .ok wire →
      wire = ((registry.sealedBy suite conn plaintext).map (·.bytes)).flatten
  opened : ∀ raw plaintext rest, (registry.cipher? conn).isSome = true →
    (registry.decrypt suite conn raw).1 = .ok (plaintext, rest) →
      raw = ((registry.openedBy suite conn raw).map (·.bytes)).flatten ++ rest ∧
        plaintext = ((registry.openedBy suite conn raw).map (·.plaintext)).flatten
  /-- Sealing fails when there is no session, or when all numbers are used up. -/
  exhausted : ∀ plaintext error, (registry.encrypt suite conn plaintext).1 = .error error →
    registry.session? conn = none ∧ (registry.encrypt suite conn plaintext).2 = registry ∨
      ∃ cipher, (registry.encrypt suite conn plaintext).2.cipher? conn = some cipher ∧
        FrameCipher.counterLimit ≤ cipher.sent
  /-- Opening fails at what comes after the frames that it opened, and this changes nothing. -/
  refused : ∀ raw error, (registry.decrypt suite conn raw).1 = .error error →
    ∃ rest, raw = ((registry.openedBy suite conn raw).map (·.bytes)).flatten ++ rest ∧
      (registry.decrypt suite conn raw).2.decrypt suite conn rest =
        (.error error, (registry.decrypt suite conn raw).2)

theorem mapError_eq_ok {ε ε' α : Type} {outcome : Except ε α} {f : ε → ε'} {a : α}
    (h : outcome.mapError f = .ok a) : outcome = .ok a := by
  cases outcome with
  | error error => cases h
  | ok found =>
    cases h
    rfl

theorem accountable (suite : CipherSuite) (registry : Registry) (conn : ConnectionId) :
    registry.Accountable suite conn := by
  refine ⟨?_, ?_, ?_, ?_⟩
  · intro plaintext wire hsome hok
    obtain ⟨cipher, hcipher⟩ := Option.isSome_iff_exists.1 hsome
    rw [encrypt_of_cipher? suite hcipher] at hok
    simp only [sealedBy, hcipher]
    exact (cipher.encryptPieces_seals suite _).ok wire (mapError_eq_ok hok)
  · intro raw plaintext rest hsome hok
    obtain ⟨cipher, hcipher⟩ := Option.isSome_iff_exists.1 hsome
    rw [decrypt_of_cipher? suite hcipher] at hok
    simp only [openedBy, hcipher]
    exact (decryptFrames_opens suite raw.length cipher raw).ok plaintext rest hok
  · intro plaintext error herror
    rcases registry.encrypt_cases suite conn plaintext with
      ⟨hnone, heq⟩ | ⟨-, heq⟩ | ⟨cipher, hcipher, heq⟩
    · exact Or.inl ⟨hnone, by rw [heq]⟩
    · rw [heq] at herror
      cases herror
    · have hseals := cipher.encryptPieces_seals suite (chunks Frame.maxPlaintext plaintext)
      have hafter := hseals.after
      rw [heq] at herror ⊢
      refine Or.inr ⟨_, cipher?_setCipher _, ?_⟩
      rw [FrameCipher.encrypt] at herror ⊢
      rw [hafter]
      cases houtcome : (cipher.encryptPieces suite (chunks Frame.maxPlaintext plaintext)).1 with
      | error found => exact hseals.exhausted found houtcome
      | ok wire =>
        rw [houtcome] at herror
        cases herror
  · intro raw error herror
    rcases registry.decrypt_cases suite conn raw with
      ⟨hnone, heq⟩ | ⟨-, heq⟩ | ⟨cipher, hcipher, heq⟩
    · refine ⟨raw, ?_, ?_⟩
      · simp only [openedBy, cipher?, hnone, Option.bind_none]
        rfl
      · rw [heq] at herror ⊢
        cases herror
        exact heq
    · rw [heq] at herror
      cases herror
    · have hopens := decryptFrames_opens suite raw.length cipher raw
      rw [heq] at herror ⊢
      obtain ⟨rest, hne, hraw, hagain⟩ := hopens.refused error herror
      refine ⟨rest, ?_, ?_⟩
      · simp only [openedBy, hcipher]
        exact hraw
      · generalize (decryptFrames suite raw.length cipher raw).2 = after at hagain ⊢
        obtain ⟨count, hcount⟩ : ∃ count, rest.length = count + 1 :=
          ⟨rest.length - 1, by have := List.length_pos_iff.2 hne; omega⟩
        have hafter : (registry.setCipher conn after).cipher? conn = some after :=
          cipher?_setCipher after
        rw [decrypt_of_cipher? suite hafter, hcount, hagain, setCipher_self hafter]

end Registry

/-! ## All calls -/

/-- The frames that were sealed and opened under the keys that were activated last. -/
structure Epoch where
  keys : SessionKeys
  sealed : List FrameRecord := []
  opened : List FrameRecord := []

namespace Epoch

/-- The cipher that has made these frames. -/
def cipher (epoch : Epoch) : FrameCipher where
  keys := epoch.keys
  sent := epoch.sealed.length
  received := epoch.opened.length

/-- The epoch of a connection after a call on it. -/
def after (suite : CipherSuite) (registry : Registry) (conn : ConnectionId)
    (epoch? : Option Epoch) : ConnectionCall → Option Epoch
  | .activate =>
    match registry.stagedKeys conn with
    | some keys => some { keys }
    | none => epoch?
  | .encrypt plaintext => epoch?.map fun epoch =>
      { epoch with sealed := epoch.sealed ++ registry.sealedBy suite conn plaintext }
  | .decrypt raw => epoch?.map fun epoch =>
      { epoch with opened := epoch.opened ++ registry.openedBy suite conn raw }
  | .remove => none
  | .change _ | .attach _ | .detach | .stage _ _ | .subscribe _ _ => epoch?

/-- The frames of each direction are numbered from zero on. -/
structure InOrder (suite : CipherSuite) (epoch : Epoch) : Prop where
  sealed : Numbered epoch.keys.encrypt 0 epoch.sealed
  isSealed : ∀ record ∈ epoch.sealed, record.IsSealed suite
  bounded : epoch.sealed.length ≤ FrameCipher.counterLimit
  opened : Numbered epoch.keys.decrypt 0 epoch.opened
  isOpened : ∀ record ∈ epoch.opened, record.IsOpened suite

/-- The cipher of a connection has made the frames of its epoch. -/
inductive Accounts (suite : CipherSuite) : Option FrameCipher → Option Epoch → Prop
  | plain : Accounts suite none none
  | active {epoch : Epoch} (h : epoch.InOrder suite) :
    Accounts suite (some epoch.cipher) (some epoch)

theorem InOrder.start (suite : CipherSuite) (keys : SessionKeys) :
    InOrder suite { keys } :=
  ⟨.nil, nofun, Nat.zero_le _, .nil, nofun⟩

section Calls

variable {suite : CipherSuite} {epoch : Epoch} {records : List FrameRecord}

theorem InOrder.add_sealed (h : epoch.InOrder suite)
    {result : Except CryptoError Bytes × FrameCipher}
    (hseals : epoch.cipher.Seals suite records result) :
    Accounts suite (some result.2) (some { epoch with sealed := epoch.sealed ++ records }) := by
  have hnumbered : Numbered epoch.keys.encrypt 0 (epoch.sealed ++ records) := by
    refine h.sealed.append ?_
    rw [Nat.zero_add]
    exact hseals.numbered
  have hsealed : ∀ record ∈ epoch.sealed ++ records, record.IsSealed suite := by
    intro record hmem
    rcases List.mem_append.1 hmem with hmem | hmem
    · exact h.isSealed record hmem
    · exact hseals.isSealed record hmem
  have hbounded : (epoch.sealed ++ records).length ≤ FrameCipher.counterLimit := by
    rw [List.length_append]
    exact hseals.bounded h.bounded
  have hcipher : result.2 = cipher { epoch with sealed := epoch.sealed ++ records } := by
    rw [hseals.after]
    simp only [cipher, List.length_append]
  rw [hcipher]
  exact .active ⟨hnumbered, hsealed, hbounded, h.opened, h.isOpened⟩

theorem InOrder.add_opened (h : epoch.InOrder suite) {raw : Bytes}
    {result : Except TransportError (Bytes × Bytes) × FrameCipher}
    (hopens : Registry.OpensFrames suite epoch.cipher raw records result) :
    Accounts suite (some result.2) (some { epoch with opened := epoch.opened ++ records }) := by
  have hnumbered : Numbered epoch.keys.decrypt 0 (epoch.opened ++ records) := by
    refine h.opened.append ?_
    rw [Nat.zero_add]
    exact hopens.numbered
  have hopened : ∀ record ∈ epoch.opened ++ records, record.IsOpened suite := by
    intro record hmem
    rcases List.mem_append.1 hmem with hmem | hmem
    · exact h.isOpened record hmem
    · exact hopens.isOpened record hmem
  have hcipher : result.2 = cipher { epoch with opened := epoch.opened ++ records } := by
    rw [hopens.after]
    simp only [cipher, List.length_append]
  rw [hcipher]
  exact .active ⟨h.sealed, h.isSealed, h.bounded, hnumbered, hopened⟩

variable {registry : Registry} {conn : ConnectionId} {epoch? : Option Epoch}

theorem Accounts.encrypt (h : Accounts suite (registry.cipher? conn) epoch?) (plaintext : Bytes) :
    Accounts suite ((registry.encrypt suite conn plaintext).2.cipher? conn)
      (after suite registry conn epoch? (.encrypt plaintext)) := by
  rcases registry.encrypt_cases suite conn plaintext with
    ⟨hnone, heq⟩ | ⟨hnone, heq⟩ | ⟨cipher, hcipher, heq⟩
  · have hcipher : registry.cipher? conn = none := by
      rw [Registry.cipher?, hnone, Option.bind_none]
    rw [heq]
    simp only [hcipher] at h ⊢
    cases h
    exact .plain
  · rw [heq]
    simp only [hnone] at h ⊢
    cases h
    exact .plain
  · rw [heq]
    simp only [hcipher, Registry.cipher?_setCipher] at h ⊢
    cases h with
    | active h =>
      simp only [after, Registry.sealedBy, hcipher]
      exact h.add_sealed (FrameCipher.encryptPieces_seals suite _ _)

theorem Accounts.decrypt (h : Accounts suite (registry.cipher? conn) epoch?) (raw : Bytes) :
    Accounts suite ((registry.decrypt suite conn raw).2.cipher? conn)
      (after suite registry conn epoch? (.decrypt raw)) := by
  rcases registry.decrypt_cases suite conn raw with
    ⟨hnone, heq⟩ | ⟨hnone, heq⟩ | ⟨cipher, hcipher, heq⟩
  · have hcipher : registry.cipher? conn = none := by
      rw [Registry.cipher?, hnone, Option.bind_none]
    rw [heq]
    simp only [hcipher] at h ⊢
    cases h
    exact .plain
  · rw [heq]
    simp only [hnone] at h ⊢
    cases h
    exact .plain
  · rw [heq]
    simp only [hcipher, Registry.cipher?_setCipher] at h ⊢
    cases h with
    | active h =>
      simp only [after, Registry.openedBy, hcipher]
      exact h.add_opened (Registry.decryptFrames_opens suite _ _ _)

/-- A call on a connection makes the frames by which its epoch grows. -/
theorem Accounts.call (connections : Connections)
    (h : Accounts suite (connections.registry.cipher? conn) epoch?) (call : ConnectionCall) :
    Accounts suite ((connections.call suite conn call).registry.cipher? conn)
      (after suite connections.registry conn epoch? call) := by
  -- most calls change a session but not its cipher
  have hkeep : ∀ f : Session → Session, (∀ session, (f session).cipher = session.cipher) →
      (connections.registry.modify conn f).cipher? conn = connections.registry.cipher? conn := by
    intro f hf
    rw [Registry.cipher?_modify_self, hf, Registry.cipher?_eq]
  cases call with
  | change f =>
    simp only [Connections.call, Connections.call.onRegistry]
    rw [hkeep]
    · exact h
    · exact fun _ => rfl
  | attach capacity =>
    simp only [Connections.call, Connections.attach, Registry.attach]
    rw [hkeep]
    · exact h
    · exact fun _ => rfl
  | detach =>
    simp only [Connections.call, Connections.call.onRegistry]
    cases hsession : connections.registry.session? conn with
    | none =>
      simp only [Registry.detach, hsession]
      exact h
    | some session =>
      rw [Registry.detach_eq_modify hsession, hkeep]
      · exact h
      · exact fun _ => rfl
  | stage controller keys =>
    simp only [Connections.call, Connections.call.onRegistry, Registry.stage]
    rw [hkeep]
    · exact h
    · exact fun _ => rfl
  | activate =>
    simp only [Connections.call, Connections.call.onRegistry, Registry.activate, after]
    cases connections.registry.stagedKeys conn with
    | none => exact h
    | some keys =>
      simp only [Registry.cipher?_modify_self]
      exact .active (.start suite keys)
  | encrypt plaintext => exact h.encrypt plaintext
  | decrypt raw => exact h.decrypt raw
  | subscribe id on =>
    simp only [Connections.call, Connections.call.onRegistry, Registry.setSubscription]
    cases on with
    | true =>
      have hsame := hkeep
        (fun session => { session with subscriptions := session.subscriptions.insert id })
        fun _ => rfl
      rw [← hsame] at h
      exact h
    | false =>
      have hsame := hkeep
        (fun session => { session with subscriptions := session.subscriptions.erase id })
        fun _ => rfl
      rw [← hsame] at h
      exact h
  | remove =>
    have hnone : (connections.registry.remove conn).cipher? conn = none := by
      unfold Registry.remove
      cases hsession : connections.registry.session? conn with
      | none => rw [Registry.cipher?, hsession, Option.bind_none]
      | some session =>
        simp only [Registry.cipher?, Registry.session?, ExtTreeMap.getElem?_erase_self,
          Option.bind_none]
    simp only [Connections.call, Connections.call.onRegistry, hnone]
    exact .plain

end Calls

end Epoch

/-- The connections, and for each what its cipher was used for. -/
structure Observed where
  connections : Connections := {}
  epochs : ConnectionId → Option Epoch := fun _ => none

namespace Observed

/-- Makes a call on a connection. -/
def call (suite : CipherSuite) (observed : Observed) (conn : ConnectionId)
    (call : ConnectionCall) : Observed where
  connections := observed.connections.call suite conn call
  epochs := Function.update observed.epochs conn
    (Epoch.after suite observed.connections.registry conn (observed.epochs conn) call)

/-- Makes calls, beginning without any session. -/
def run (suite : CipherSuite) (history : List (ConnectionId × ConnectionCall)) : Observed :=
  history.foldl (fun observed (conn, call) => observed.call suite conn call) {}

/-- Every cipher has made the frames of its epoch. -/
def Accounted (suite : CipherSuite) (observed : Observed) : Prop :=
  ∀ conn, Epoch.Accounts suite (observed.connections.registry.cipher? conn) (observed.epochs conn)

theorem call_accounted {suite : CipherSuite} {observed : Observed} (h : observed.Accounted suite)
    (conn : ConnectionId) (call : ConnectionCall) :
    (observed.call suite conn call).Accounted suite := by
  intro other
  by_cases hne : conn = other
  -- only the epoch of the connection itself grows
  · subst hne
    simp only [Observed.call, Function.update_self]
    exact (h conn).call observed.connections call
  · have huntouched := Connections.call_untouched suite observed.connections hne call
    simp only [Observed.call, Function.update_of_ne (Ne.symm hne), Registry.cipher?]
    rw [huntouched.session]
    exact h other

theorem run_accounted (suite : CipherSuite) (history : List (ConnectionId × ConnectionCall)) :
    (run suite history).Accounted suite := by
  have hrun : ∀ observed : Observed, observed.Accounted suite →
      (history.foldl (fun observed (conn, call) => observed.call suite conn call)
        observed).Accounted suite := by
    induction history with
    | nil => exact fun _ h => h
    | cons next rest ih => exact fun observed h => ih _ (call_accounted h next.1 next.2)
  refine hrun {} fun conn => ?_
  exact .plain

/-- Whatever is called on any connections, the frames that were sealed on a connection since keys
were activated on it took the numbers from zero on as their nonces, each once, and so did the frames
that were opened; the counters of its cipher say how many they are. A call that fails counts the
frames that it sealed or opened, and what it is refused for changes nothing. Calls on one connection
leave the others alone. -/
theorem nonces_in_order (suite : CipherSuite) (history : List (ConnectionId × ConnectionCall))
    (conn : ConnectionId) :
    let observed := run suite history
    observed.connections.registry.cipher? conn = (observed.epochs conn).map Epoch.cipher ∧
      (∀ epoch, observed.epochs conn = some epoch →
        (∀ (k : Nat) record, epoch.sealed[k]? = some record →
          record.key = epoch.keys.encrypt ∧ record.nonce = Frame.nonce k ∧
            record.IsSealed suite) ∧
        (∀ (k : Nat) record, epoch.opened[k]? = some record →
          record.key = epoch.keys.decrypt ∧ record.nonce = Frame.nonce k ∧
            record.IsOpened suite) ∧
        (epoch.sealed.map fun record => (record.key, record.nonce)).Nodup) ∧
      observed.connections.registry.Accountable suite conn ∧
      ∀ other call, conn ≠ other →
        Connections.Untouched observed.connections
          (observed.connections.call suite conn call) other := by
  intro observed
  have haccounts := run_accounted suite history conn
  change Epoch.Accounts suite (observed.connections.registry.cipher? conn)
    (observed.epochs conn) at haccounts
  refine ⟨?_, ?_, Registry.accountable suite _ conn, ?_⟩
  · generalize observed.connections.registry.cipher? conn = cipher? at haccounts ⊢
    generalize observed.epochs conn = epoch? at haccounts ⊢
    cases haccounts with
    | plain => rfl
    | active h => rfl
  · intro epoch hepoch
    rw [hepoch] at haccounts
    generalize observed.connections.registry.cipher? conn = cipher? at haccounts
    cases haccounts with
    | active h =>
      refine ⟨?_, ?_, h.sealed.nodup h.bounded⟩
      · intro k record hrecord
        obtain ⟨hkey, hnonce⟩ := h.sealed k record hrecord
        rw [Nat.zero_add] at hnonce
        exact ⟨hkey, hnonce, h.isSealed record (List.mem_of_getElem? hrecord)⟩
      · intro k record hrecord
        obtain ⟨hkey, hnonce⟩ := h.opened k record hrecord
        rw [Nat.zero_add] at hnonce
        exact ⟨hkey, hnonce, h.isOpened record (List.mem_of_getElem? hrecord)⟩
  · intro other call hne
    exact Connections.call_untouched suite observed.connections hne call

/-! ## A call that fails -/

/-- A session whose keys were just activated. -/
def activated : Registry :=
  (run .standard [(1, .stage "c" ⟨.replicate 32 1, .replicate 32 2⟩),
    (1, .activate)]).connections.registry

/-- A frame, and the same frame once more, which cannot be opened a second time. -/
def repeatedFrame : Bytes :=
  FrameCipher.frame .standard (.replicate 32 2) 0 [1] ++
    FrameCipher.frame .standard (.replicate 32 2) 0 [1]

/-- The call fails at the second frame and has counted the first. -/
theorem repeatedFrame_counted :
    (activated.session? 1).bind (·.counters) = some (0, 0) ∧
      (activated.decrypt .standard 1 repeatedFrame).1.toOption = none ∧
      ((activated.decrypt .standard 1 repeatedFrame).2.session? 1).bind (·.counters) =
        some (0, 1) := by
  decide +kernel

end Observed

end HomeKit
