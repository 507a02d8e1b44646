import HomeKit.Connection.Outbox

/-!
# What a session's encryption rests on

Of a session, encryption needs the controller, the staged keys and the keys of the cipher
(`Session.credentials`). Only staging, activating and removing change them: sending and receiving
frames moves a cipher's counters and keeps its keys, and whatever else is done to a session leaves
all three alone (`Registry.credentials_modify`).
-/

namespace HomeKit

/-! ## Ciphers keep their keys -/

namespace FrameCipher

variable (suite : CipherSuite)

theorem encryptPieces_keys (pieces : List Bytes) (cipher : FrameCipher) :
    (encryptPieces suite cipher pieces).2.keys = cipher.keys := by
  induction pieces generalizing cipher with
  | nil => rfl
  | cons piece rest ih =>
    unfold encryptPieces
    split
    · exact ih _
    · rfl

theorem encrypt_keys (cipher : FrameCipher) (plaintext : Bytes) :
    (cipher.encrypt suite plaintext).2.keys = cipher.keys :=
  encryptPieces_keys suite _ cipher

theorem decryptBlock_keys (cipher : FrameCipher) (body : Bytes) (length : Nat) :
    (cipher.decryptBlock suite body length).2.keys = cipher.keys := by
  unfold decryptBlock
  split
  · rfl
  · split
    · split
      · rfl
      · rfl
    · rfl

theorem decryptUpTo_keys (count : Nat) (cipher : FrameCipher) (buffer : Bytes) :
    (decryptUpTo suite count cipher buffer).2.keys = cipher.keys := by
  induction count generalizing cipher buffer with
  | zero => rfl
  | succ count ih =>
    cases buffer with
    | nil => rfl
    | cons b rest =>
      unfold decryptUpTo
      split
      · rfl
      · rfl
      · rename_i length _
        split
        · rfl
        · have hblock := decryptBlock_keys suite cipher
            (((b :: rest).take length).drop 2) (length - Frame.overhead)
          split
          · rename_i heq
            rw [heq] at hblock
            exact hblock
          · rename_i heq
            rw [heq] at hblock
            exact (ih _ _).trans hblock

theorem decrypt_keys (cipher : FrameCipher) (buffer : Bytes) :
    (cipher.decrypt suite buffer).2.keys = cipher.keys :=
  decryptUpTo_keys suite _ cipher buffer

end FrameCipher

theorem Registry.decryptFrames_keys {suite : CipherSuite} (count : Nat) (cipher : FrameCipher)
    (raw : Bytes) : (Registry.decryptFrames suite count cipher raw).2.keys = cipher.keys := by
  induction count generalizing cipher raw with
  | zero => rfl
  | succ count ih =>
    unfold Registry.decryptFrames
    split
    · rfl
    · rfl
    · rename_i length _
      split
      · rfl
      · have hframe := cipher.decrypt_keys suite (raw.take length)
        split
        · rename_i heq
          rw [heq] at hframe
          exact hframe
        · rename_i heq
          rw [heq] at hframe
          exact (ih _ _).trans hframe

/-! ## Sessions -/

/-- The controller, the staged keys and the keys of the cipher. -/
structure Credentials where
  controller : Option String := none
  staged : Option SessionKeys := none
  keys : Option SessionKeys := none
  deriving DecidableEq

/-- A controller was verified, and its keys are staged. -/
def Credentials.stage (credentials : Credentials) (controller : String) (keys : SessionKeys) :
    Credentials :=
  { credentials with controller := some controller, staged := some keys }

/-- The staged keys become those of the cipher, if there are any. -/
def Credentials.activate (credentials : Credentials) : Credentials :=
  match credentials.staged with
  | some keys => { credentials with staged := none, keys := some keys }
  | none => credentials

/-- Keys are replaced by others at most. -/
theorem Credentials.isSome_keys_activate {credentials : Credentials}
    (h : credentials.keys.isSome = true) : credentials.activate.keys.isSome = true := by
  unfold Credentials.activate
  split
  · rfl
  · exact h

/-- What the session's encryption rests on. -/
def Session.credentials (session : Session) : Credentials where
  controller := session.controller
  staged := session.staged
  keys := session.cipher.map (·.keys)

namespace Registry

variable {registry : Registry} {conn other : ConnectionId}

/-- What the encryption of a connection rests on. -/
def credentials (registry : Registry) (conn : ConnectionId) : Credentials :=
  (registry.session conn).credentials

theorem session?_modify (registry : Registry) (conn other : ConnectionId)
    (f : Session → Session) :
    (registry.modify conn f).session? other =
      if conn = other then some (f (registry.session conn)) else registry.session? other := by
  unfold session? modify
  simp only [Std.ExtTreeMap.getElem?_insert, Std.LawfulEqOrd.compare_eq_iff_eq]

theorem session_modify (registry : Registry) (conn other : ConnectionId) (f : Session → Session) :
    (registry.modify conn f).session other =
      if conn = other then f (registry.session conn) else registry.session other := by
  unfold session
  rw [session?_modify]
  split
  · rfl
  · rfl

theorem isEncrypted_eq (registry : Registry) (conn : ConnectionId) :
    registry.isEncrypted conn = (registry.credentials conn).keys.isSome := by
  unfold isEncrypted credentials session Session.isEncrypted Session.credentials
  cases registry.session? conn with
  | none => rfl
  | some session => simp

theorem isEncrypted_of_credentials {before after : Registry}
    (h : after.credentials conn = before.credentials conn) (henc : before.isEncrypted conn = true) :
    after.isEncrypted conn = true := by
  rw [isEncrypted_eq, h, ← isEncrypted_eq]
  exact henc

theorem controllerOf_eq (registry : Registry) (conn : ConnectionId) :
    registry.controllerOf conn =
      if registry.isEncrypted conn then (registry.credentials conn).controller else none := by
  unfold controllerOf isEncrypted credentials session Session.verifiedController Session.credentials
  cases registry.session? conn with
  | none => rfl
  | some session => simp

theorem credentials_modify_self (f : Session → Session) :
    (registry.modify conn f).credentials conn = (f (registry.session conn)).credentials := by
  rw [credentials, session_modify, if_pos rfl]

theorem credentials_modify_of_ne (f : Session → Session) (hne : conn ≠ other) :
    (registry.modify conn f).credentials other = registry.credentials other := by
  rw [credentials, session_modify, if_neg hne, credentials]

/-- A change of one session that keeps its credentials keeps those of every session. -/
theorem credentials_modify {f : Session → Session}
    (hf : (f (registry.session conn)).credentials = registry.credentials conn)
    (other : ConnectionId) :
    (registry.modify conn f).credentials other = registry.credentials other := by
  by_cases hne : conn = other
  · subst hne
    rw [credentials_modify_self, hf]
  · exact credentials_modify_of_ne f hne

/-! ## What keeps them -/

theorem credentials_attach (registry : Registry) (conn other : ConnectionId) :
    (registry.attach conn).credentials other = registry.credentials other :=
  credentials_modify (f := fun session => { session with hasPeer := true, isAttached := true }) rfl
    other

theorem session_of_session? {session : Session} (h : registry.session? conn = some session) :
    registry.session conn = session := by
  rw [Registry.session, h]
  rfl

theorem detach_eq_modify {session : Session} (h : registry.session? conn = some session) :
    registry.detach conn =
      registry.modify conn fun session => { session with isAttached := false } := by
  unfold detach
  rw [h, modify, session_of_session? h]

theorem credentials_detach (registry : Registry) (conn other : ConnectionId) :
    (registry.detach conn).credentials other = registry.credentials other := by
  cases hsession : registry.session? conn with
  | none =>
    unfold detach
    rw [hsession]
  | some session =>
    rw [detach_eq_modify hsession]
    exact credentials_modify rfl other

theorem credentials_setCipher {session : Session} {cipher after : FrameCipher}
    (hsession : registry.session? conn = some session) (hcipher : session.cipher = some cipher)
    (hkeys : after.keys = cipher.keys) (other : ConnectionId) :
    (registry.setCipher conn after).credentials other = registry.credentials other := by
  refine credentials_modify ?_ other
  unfold credentials
  rw [session_of_session? hsession]
  simp only [Session.credentials, hcipher, Option.map_some, hkeys]

theorem credentials_encrypt (suite : CipherSuite) (registry : Registry) (conn : ConnectionId)
    (plaintext : Bytes) (other : ConnectionId) :
    (registry.encrypt suite conn plaintext).2.credentials other = registry.credentials other := by
  unfold encrypt
  cases hsession : registry.session? conn with
  | none => rfl
  | some session =>
    cases hcipher : session.cipher with
    | none => simp [hcipher]
    | some cipher =>
      simp only [hcipher]
      exact credentials_setCipher hsession hcipher (cipher.encrypt_keys suite plaintext) other

theorem credentials_decrypt (suite : CipherSuite) (registry : Registry) (conn : ConnectionId)
    (raw : Bytes) (other : ConnectionId) :
    (registry.decrypt suite conn raw).2.credentials other = registry.credentials other := by
  unfold decrypt
  cases hsession : registry.session? conn with
  | none => rfl
  | some session =>
    cases hcipher : session.cipher with
    | none => simp [hcipher]
    | some cipher =>
      simp only [hcipher]
      exact credentials_setCipher hsession hcipher (decryptFrames_keys _ cipher raw) other

theorem credentials_setSubscription (registry : Registry) (conn : ConnectionId)
    (id : CharacteristicId) (on : Bool) (other : ConnectionId) :
    (registry.setSubscription conn id on).credentials other = registry.credentials other := by
  unfold setSubscription
  cases on with
  | true =>
    exact credentials_modify (f := fun session =>
      { session with subscriptions := session.subscriptions.insert id }) rfl other
  | false =>
    exact credentials_modify (f := fun session =>
      { session with subscriptions := session.subscriptions.erase id }) rfl other

/-! ## What changes them -/

theorem credentials_stage (registry : Registry) (conn other : ConnectionId) (controller : String)
    (keys : SessionKeys) :
    (registry.stage conn controller keys).credentials other =
      if conn = other then (registry.credentials other).stage controller keys
      else registry.credentials other := by
  split
  · rename_i heq
    subst heq
    exact credentials_modify_self _
  · rename_i hne
    exact credentials_modify_of_ne _ hne

theorem stagedKeys_eq (registry : Registry) (conn : ConnectionId) :
    registry.stagedKeys conn = (registry.credentials conn).staged := by
  unfold stagedKeys credentials session Session.credentials
  cases registry.session? conn with
  | none => rfl
  | some session => rfl

theorem credentials_activate (registry : Registry) (conn other : ConnectionId) :
    (registry.activate conn).credentials other =
      if conn = other then (registry.credentials other).activate
      else registry.credentials other := by
  unfold activate
  rw [stagedKeys_eq]
  split
  · rename_i keys hstaged
    split
    · rename_i heq
      subst heq
      rw [Credentials.activate, hstaged]
      exact credentials_modify_self _
    · rename_i hne
      exact credentials_modify_of_ne _ hne
  · rename_i hstaged
    split
    · rename_i heq
      subst heq
      rw [Credentials.activate, hstaged]
    · rfl

theorem isEncrypted_activate (h : registry.isEncrypted other = true) :
    (registry.activate conn).isEncrypted other = true := by
  rw [isEncrypted_eq] at h ⊢
  rw [credentials_activate]
  split
  · exact Credentials.isSome_keys_activate h
  · exact h

theorem session?_remove (registry : Registry) (conn : ConnectionId) :
    (registry.remove conn).session? conn = none := by
  unfold remove
  cases hsession : registry.session? conn with
  | none => exact hsession
  | some session => exact Std.ExtTreeMap.getElem?_erase_self

theorem session?_remove_of_ne (registry : Registry) (hne : conn ≠ other) :
    (registry.remove conn).session? other = registry.session? other := by
  unfold remove
  cases registry.session? conn with
  | none => rfl
  | some session =>
    unfold session?
    simp only [Std.ExtTreeMap.getElem?_erase, Std.LawfulEqOrd.compare_eq_iff_eq, if_neg hne]

/-- A session that is removed leaves nothing behind. -/
theorem credentials_remove (registry : Registry) (conn other : ConnectionId) :
    (registry.remove conn).credentials other =
      if conn = other then {} else registry.credentials other := by
  unfold remove
  cases hsession : registry.session? conn with
  | none =>
    by_cases heq : conn = other
    · subst heq
      rw [if_pos rfl, credentials, session, hsession]
      rfl
    · rw [if_neg heq]
  | some found =>
    unfold credentials session session?
    simp only [Std.ExtTreeMap.getElem?_erase, Std.LawfulEqOrd.compare_eq_iff_eq]
    split
    · rfl
    · rfl

end Registry

end HomeKit
