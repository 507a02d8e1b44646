import HomeKit.Accessory.Requests
import HomeKit.Proofs.Connection.Credentials
import HomeKit.Proofs.Pairing.Verify
import Mathlib.Data.List.Induction
import Mathlib.Tactic.SplitIfs

/-!
# Encrypted connections are verified

Requests arrive on any connections, staged keys are activated, frames are sent and received, and
connections come and go, in any order (`SessionAction`). The controllers that pair-verify verified
on a connection since its session was made are collected along the way (`verifications`).

The invariant is `Grounded`: a session's controller is the last one that was verified on its
connection, and its keys, staged or in use, are those of one that was. So an encrypted connection
was verified, and what is there for encrypted connections only is out of reach of any other
(`encrypted_verified`).
-/

namespace HomeKit

/-- What happens to the sessions of an accessory. -/
inductive SessionAction where
  | request (conn : ConnectionId) (request : Http.Request)
  /-- Staged keys are put to use. -/
  | activate (conn : ConnectionId)
  | remove (conn : ConnectionId)
  | attach (conn : ConnectionId) (capacity : Nat)
  | detach (conn : ConnectionId)
  /-- Something is sent. -/
  | encrypt (conn : ConnectionId) (plaintext : Bytes)
  /-- Something is received. -/
  | decrypt (conn : ConnectionId) (raw : Bytes)

namespace Accessory

variable {suite : CipherSuite} {accessory : Accessory} {conn other : ConnectionId}

/-! ## Requests -/

/-- What the encryption of a connection rests on. -/
def credentials (accessory : Accessory) (conn : ConnectionId) : Credentials :=
  accessory.registry.credentials conn

theorem credentials_modifySession (accessory : Accessory) (conn : ConnectionId)
    (f : Session → Session) (hf : ∀ session, (f session).credentials = session.credentials)
    (other : ConnectionId) :
    (accessory.modifySession conn f).credentials other = accessory.credentials other :=
  Registry.credentials_modify (hf _) other

theorem credentials_pairSetup (suite : CipherSuite) (accessory : Accessory) (conn : ConnectionId)
    (body : Bytes) (other : ConnectionId) :
    (accessory.pairSetup suite conn body).2.credentials other = accessory.credentials other := by
  exact credentials_modifySession _ conn
    (fun session => { session with pairSetup := some _ }) (fun _ => rfl) other

theorem credentials_pairings (accessory : Accessory) (conn : ConnectionId) (body : Bytes)
    (other : ConnectionId) :
    (accessory.pairings conn body).2.credentials other = accessory.credentials other := by
  unfold pairings closeUnpaired credentials registry
  simp only
  rw [Connections.foldl_registry Connections.requestClose_registry]
  rfl

theorem credentials_applySubscription {after : Accessory} {id : CharacteristicId} {entry : Json}
    (h : accessory.applySubscription conn id entry = .ok after) (other : ConnectionId) :
    after.credentials other = accessory.credentials other := by
  unfold applySubscription at h
  split at h
  · cases h
    rfl
  · split at h
    · cases h
    · split at h
      · cases h
      · cases h
        exact Registry.credentials_setSubscription ..

theorem credentials_applyValue (accessory : Accessory) (conn : ConnectionId) (id : CharacteristicId)
    (entry : Json) (other : ConnectionId) :
    (accessory.applyValue conn id entry).2.credentials other = accessory.credentials other := by
  unfold applyValue
  split
  · rfl
  · split
    · rfl
    · unfold credentials registry
      simp only
      rw [Connections.broadcast_registry]

theorem credentials_applyEntries (entries : List Json) (accessory : Accessory)
    (conn other : ConnectionId) :
    (accessory.applyEntries conn entries).2.credentials other = accessory.credentials other := by
  induction entries generalizing accessory with
  | nil => rfl
  | cons entry rest ih =>
    unfold applyEntries
    split
    · rfl
    · rename_i id _
      have hentry : (accessory.applyEntry conn id entry).2.credentials other =
          accessory.credentials other := by
        unfold applyEntry
        split
        · rfl
        · rename_i after hafter
          exact (credentials_applyValue after conn id entry other).trans
            (credentials_applySubscription hafter other)
      exact (ih _).trans hentry

theorem credentials_writeCharacteristics (accessory : Accessory) (conn : ConnectionId)
    (body : Bytes) (other : ConnectionId) :
    (accessory.writeCharacteristics conn body).2.credentials other =
      accessory.credentials other := by
  unfold writeCharacteristics
  split
  · rfl
  · exact credentials_applyEntries _ accessory conn other

/-- The controller that the connection's machine verifies on a message of pair-verify. -/
def verifies (suite : CipherSuite) (accessory : Accessory) (conn : ConnectionId) (body : Bytes) :
    Option VerifiedController :=
  ((accessory.verifyMachine conn).handle suite accessory.store body accessory.random).1.verified

theorem credentials_runPairVerify (suite : CipherSuite) (accessory : Accessory)
    (conn : ConnectionId) (body : Bytes) (other : ConnectionId) :
    (accessory.runPairVerify suite conn body).2.2.credentials other =
      accessory.credentials other := by
  exact credentials_modifySession accessory conn
    (fun session => { session with pairVerify := none }) (fun _ => rfl) other

theorem credentials_settlePairVerify (accessory : Accessory) (conn : ConnectionId)
    (response : VerifyResponse) (machine : PairVerify) (other : ConnectionId) :
    (accessory.settlePairVerify conn response machine).2.credentials other =
      match response.verified with
      | some verified =>
        if conn = other then (accessory.credentials other).stage verified.id verified.keys
        else accessory.credentials other
      | none => accessory.credentials other := by
  unfold settlePairVerify
  cases response.verified with
  | none =>
    exact credentials_modifySession accessory conn
      (fun session => { session with pairVerify := some machine }) (fun _ => rfl) other
  | some verified => exact Registry.credentials_stage ..

theorem credentials_pairVerify (suite : CipherSuite) (accessory : Accessory) (conn : ConnectionId)
    (body : Bytes) (other : ConnectionId) :
    (accessory.pairVerify suite conn body).2.credentials other =
      match accessory.verifies suite conn body with
      | some verified =>
        if conn = other then (accessory.credentials other).stage verified.id verified.keys
        else accessory.credentials other
      | none => accessory.credentials other := by
  unfold pairVerify
  simp only
  rw [credentials_settlePairVerify, credentials_runPairVerify]
  rfl

theorem ofPath?_eq_pairVerify_iff {path : String} :
    Endpoint.ofPath? path = some .pairVerify ↔ path = "/pair-verify" := by
  unfold Endpoint.ofPath?
  constructor
  · intro h
    by_cases hverify : path = "/pair-verify"
    · exact hverify
    · rw [if_neg hverify] at h
      split_ifs at h <;> cases h
  · rintro rfl
    rfl

/-- The controller that a request verifies. -/
def verification (suite : CipherSuite) (accessory : Accessory) (conn : ConnectionId)
    (request : Http.Request) : Option VerifiedController :=
  if request.method = .post ∧ request.path = "/pair-verify" then
    accessory.verifies suite conn request.body
  else none

/-- A request changes what the encryption of a connection rests on only if it verifies a controller
on that connection. -/
theorem credentials_handle (suite : CipherSuite) (accessory : Accessory) (conn : ConnectionId)
    (request : Http.Request) (other : ConnectionId) :
    (accessory.handle suite conn request).2.credentials other =
      match accessory.verification suite conn request with
      | some verified =>
        if conn = other then (accessory.credentials other).stage verified.id verified.keys
        else accessory.credentials other
      | none => accessory.credentials other := by
  by_cases hverify : request.method = .post ∧ request.path = "/pair-verify"
  · rw [verification, if_pos hverify, ← credentials_pairVerify]
    unfold handle serve
    rw [ofPath?_eq_pairVerify_iff.2 hverify.2, hverify.1]
    rfl
  · rw [verification, if_neg hverify]
    unfold handle
    simp only
    split
    · rfl
    · cases hendpoint : Endpoint.ofPath? request.path with
      | none => rfl
      | some endpoint =>
        unfold serve
        simp only
        split
        · exact credentials_pairSetup ..
        · rename_i hmethod
          exact absurd ⟨hmethod, ofPath?_eq_pairVerify_iff.1 hendpoint⟩ hverify
        · exact credentials_pairings ..
        · rfl
        · rfl
        · rfl
        · exact credentials_writeCharacteristics ..
        · rfl

/-- Only open endpoints are there for a connection that is not encrypted. -/
theorem handle_of_not_isEncrypted {request : Http.Request}
    (hclosed : ∀ endpoint, Endpoint.ofPath? request.path = some endpoint → endpoint.isOpen = false)
    (hplain : accessory.registry.isEncrypted conn = false) :
    accessory.handle suite conn request =
      ({ response := statusResponse 470 .insufficientPrivileges }, accessory) := by
  unfold handle
  simp only
  rw [if_pos]
  rw [hplain]
  cases hendpoint : Endpoint.ofPath? request.path with
  | none => rfl
  | some endpoint => simp [hclosed endpoint hendpoint]

/-! ## Runs -/

/-- Takes an action. -/
def step (suite : CipherSuite) (accessory : Accessory) : SessionAction → Accessory
  | .request conn request => (accessory.handle suite conn request).2
  | .activate conn => accessory.setRegistry (accessory.registry.activate conn)
  | .remove conn => accessory.removeSession conn
  | .attach conn capacity =>
    { accessory with connections := accessory.connections.attach conn capacity }
  | .detach conn => accessory.setRegistry (accessory.registry.detach conn)
  | .encrypt conn plaintext =>
    accessory.setRegistry (accessory.registry.encrypt suite conn plaintext).2
  | .decrypt conn raw => accessory.setRegistry (accessory.registry.decrypt suite conn raw).2

/-- Takes actions one after another. -/
def run (suite : CipherSuite) (accessory : Accessory) (history : List SessionAction) : Accessory :=
  history.foldl (step suite) accessory

/-- The controllers that were verified on a connection since its session was made, after one more
action. -/
def noted (suite : CipherSuite) (conn : ConnectionId) (accessory : Accessory)
    (seen : List VerifiedController) : SessionAction → List VerifiedController
  | .request other request =>
    if other = conn then (accessory.verification suite conn request).toList ++ seen else seen
  | .remove other => if other = conn then [] else seen
  | .activate _ | .attach .. | .detach _ | .encrypt .. | .decrypt .. => seen

/-- The controllers that are verified on a connection while actions are taken one after another, the
last one first; those before its session was removed do not count. -/
def verificationsFrom (suite : CipherSuite) (conn : ConnectionId) :
    Accessory → List VerifiedController → List SessionAction → List VerifiedController
  | _, seen, [] => seen
  | accessory, seen, action :: rest =>
    verificationsFrom suite conn (accessory.step suite action)
      (noted suite conn accessory seen action) rest

/-- The controllers that were verified on a connection since its session was made, the last one
first. -/
def verifications (suite : CipherSuite) (conn : ConnectionId) (start : Accessory)
    (history : List SessionAction) : List VerifiedController :=
  verificationsFrom suite conn start [] history

theorem run_concat (suite : CipherSuite) (start : Accessory) (history : List SessionAction)
    (action : SessionAction) :
    start.run suite (history ++ [action]) = (start.run suite history).step suite action := by
  rw [run, List.foldl_append]
  rfl

theorem verificationsFrom_concat (history : List SessionAction) (start : Accessory)
    (seen : List VerifiedController) (action : SessionAction) :
    verificationsFrom suite conn start seen (history ++ [action]) =
      noted suite conn (start.run suite history)
        (verificationsFrom suite conn start seen history) action := by
  induction history generalizing start seen with
  | nil => rfl
  | cons first rest ih => exact ih _ _

/-- A session's controller is the last that was verified on its connection, and its keys are those
of one that was. -/
structure Grounded (seen : List VerifiedController) (credentials : Credentials) : Prop where
  controller_eq : credentials.controller = seen.head?.map (·.id)
  staged_mem : ∀ keys, credentials.staged = some keys → ∃ v ∈ seen, v.keys = keys
  keys_mem : ∀ keys, credentials.keys = some keys → ∃ v ∈ seen, v.keys = keys

theorem Grounded.empty : Grounded [] {} :=
  ⟨rfl, nofun, nofun⟩

theorem Grounded.stage {seen : List VerifiedController} {credentials : Credentials}
    (h : Grounded seen credentials) (verified : VerifiedController) :
    Grounded (verified :: seen) (credentials.stage verified.id verified.keys) := by
  refine ⟨rfl, ?_, ?_⟩
  · intro keys hkeys
    exact ⟨verified, List.mem_cons_self, Option.some.inj hkeys⟩
  · intro keys hkeys
    obtain ⟨v, hv, hvkeys⟩ := h.keys_mem keys hkeys
    exact ⟨v, List.mem_cons_of_mem _ hv, hvkeys⟩

theorem Grounded.activate {seen : List VerifiedController} {credentials : Credentials}
    (h : Grounded seen credentials) : Grounded seen credentials.activate := by
  unfold Credentials.activate
  split
  · rename_i keys hstaged
    refine ⟨h.controller_eq, nofun, ?_⟩
    intro used hused
    cases hused
    exact h.staged_mem keys hstaged
  · exact h

theorem credentials_removeSession (accessory : Accessory) (conn other : ConnectionId) :
    (accessory.removeSession conn).credentials other =
      if conn = other then {} else accessory.credentials other := by
  refine Eq.trans ?_ (Registry.credentials_remove accessory.registry conn other)
  unfold removeSession
  simp only
  split
  · rfl
  · rfl

theorem step_grounded {seen : List VerifiedController}
    (h : Grounded seen (accessory.credentials conn)) (action : SessionAction) :
    Grounded (noted suite conn accessory seen action)
      ((accessory.step suite action).credentials conn) := by
  cases action with
  | request other request =>
    have hcredentials := credentials_handle suite accessory other request conn
    refine (congrArg (Grounded _) hcredentials).mpr ?_
    by_cases heq : other = conn
    · subst heq
      simp only [noted, if_true]
      cases accessory.verification suite other request with
      | none => exact h
      | some verified => exact h.stage verified
    · simp only [noted, if_neg heq]
      split
      · exact h
      · exact h
  | activate other =>
    refine (congrArg (Grounded seen) (Registry.credentials_activate ..)).mpr ?_
    split
    · exact h.activate
    · exact h
  | remove other =>
    simp only [step, noted, credentials_removeSession]
    split
    · exact .empty
    · exact h
  | attach other capacity =>
    exact (congrArg (Grounded seen) (Registry.credentials_attach ..)).mpr h
  | detach other => exact (congrArg (Grounded seen) (Registry.credentials_detach ..)).mpr h
  | encrypt other plaintext =>
    exact (congrArg (Grounded seen) (Registry.credentials_encrypt ..)).mpr h
  | decrypt other raw => exact (congrArg (Grounded seen) (Registry.credentials_decrypt ..)).mpr h

/-- In every run from no sessions at all, each session is grounded. -/
theorem run_grounded (suite : CipherSuite) (accessory : Accessory) (history : List SessionAction)
    (conn : ConnectionId) :
    Grounded (verifications suite conn (accessory.setRegistry {}) history)
      (((accessory.setRegistry {}).run suite history).credentials conn) := by
  induction history using List.reverseRecOn with
  | nil => exact .empty
  | append_singleton history action ih =>
    rw [verifications, verificationsFrom_concat, run_concat]
    exact step_grounded ih action

/-! ## Verifications -/

/-- A request of pair-verify that verifies a controller is an M3. -/
theorem verification_eq_some_iff {request : Http.Request} {v : VerifiedController} :
    accessory.verification suite conn request = some v ↔
      request.method = .post ∧ request.path = "/pair-verify" ∧
        accessory.verifies suite conn request.body = some v ∧
        ∃ tlv, Tlv.decode request.body = .ok tlv ∧ tlv.state? = some 3 := by
  unfold verification
  constructor
  · intro h
    split at h
    · rename_i hverify
      obtain ⟨tlv, -, hdecode, hstate, -⟩ := PairVerify.handle_verified_iff.1 h
      exact ⟨hverify.1, hverify.2, h, tlv, hdecode, hstate⟩
    · cases h
  · rintro ⟨hmethod, hpath, h, -⟩
    rw [if_pos ⟨hmethod, hpath⟩, h]

/-- What was verified is forgotten only with the session. -/
theorem mem_verificationsFrom {v : VerifiedController} {after : List SessionAction}
    (hremove : .remove conn ∉ after) (start : Accessory) {seen : List VerifiedController}
    (hv : v ∈ seen) : v ∈ verificationsFrom suite conn start seen after := by
  induction after generalizing start seen with
  | nil => exact hv
  | cons action rest ih =>
    rw [List.mem_cons, not_or] at hremove
    refine ih hremove.2 _ ?_
    unfold noted
    cases action with
    | request other request =>
      simp only
      split
      · exact List.mem_append_right _ hv
      · exact hv
    | remove other =>
      have hne : ¬ other = conn := by
        rintro rfl
        exact hremove.1 rfl
      simp only [if_neg hne]
      exact hv
    | activate other => exact hv
    | attach other capacity => exact hv
    | detach other => exact hv
    | encrypt other plaintext => exact hv
    | decrypt other raw => exact hv

theorem verificationsFrom_append (before after : List SessionAction) (start : Accessory)
    (seen : List VerifiedController) :
    verificationsFrom suite conn start seen (before ++ after) =
      verificationsFrom suite conn (start.run suite before)
        (verificationsFrom suite conn start seen before) after := by
  induction before generalizing start seen with
  | nil => rfl
  | cons first rest ih => exact ih _ _

/-- The controllers that count are those that a request on the connection verified, after which the
session was not removed. -/
theorem mem_verifications_iff (start : Accessory) (history : List SessionAction)
    (v : VerifiedController) :
    v ∈ verifications suite conn start history ↔
      ∃ before request after, history = before ++ .request conn request :: after ∧
        .remove conn ∉ after ∧
        (start.run suite before).verification suite conn request = some v := by
  constructor
  · intro hv
    induction history using List.reverseRecOn with
    | nil => cases hv
    | append_singleton history action ih =>
      rw [verifications, verificationsFrom_concat] at hv
      have hlater : action ≠ .remove conn → v ∈ verifications suite conn start history →
          ∃ before request after, history ++ [action] = before ++ .request conn request :: after ∧
            .remove conn ∉ after ∧
            (start.run suite before).verification suite conn request = some v := by
        intro hne hv
        obtain ⟨before, request, after, rfl, hremove, hverified⟩ := ih hv
        refine ⟨before, request, after ++ [action], by simp, ?_, hverified⟩
        rw [List.mem_append, List.mem_singleton, not_or]
        exact ⟨hremove, hne.symm⟩
      unfold noted at hv
      cases action with
      | request other request =>
        simp only at hv
        split at hv
        · rename_i heq
          subst heq
          rcases List.mem_append.1 hv with hnow | hv
          · exact ⟨history, request, [], rfl, List.not_mem_nil, Option.mem_toList.1 hnow⟩
          · exact hlater nofun hv
        · exact hlater nofun hv
      | remove other =>
        simp only at hv
        split at hv
        · cases hv
        · rename_i hne
          exact hlater (fun h => hne (SessionAction.remove.inj h)) hv
      | activate other => exact hlater nofun hv
      | attach other capacity => exact hlater nofun hv
      | detach other => exact hlater nofun hv
      | encrypt other plaintext => exact hlater nofun hv
      | decrypt other raw => exact hlater nofun hv
  · rintro ⟨before, request, after, rfl, hremove, hverified⟩
    rw [verifications, verificationsFrom_append]
    refine mem_verificationsFrom hremove _ ?_
    simp only [noted, if_true]
    exact List.mem_append_left _ (Option.mem_toList.2 hverified)

/-! ## Encryption -/

/-- An action takes a connection's encryption away only by removing its session. -/
theorem step_isEncrypted (suite : CipherSuite) (action : SessionAction)
    (hremove : action ≠ .remove conn)
    (h : accessory.registry.isEncrypted conn = true) :
    (accessory.step suite action).registry.isEncrypted conn = true := by
  cases action with
  | request other request =>
    rw [Registry.isEncrypted_eq] at h ⊢
    have hcredentials := credentials_handle suite accessory other request conn
    refine (congrArg (·.keys.isSome) hcredentials).trans ?_
    cases accessory.verification suite other request with
    | none => exact h
    | some verified =>
      simp only
      split
      · exact h
      · exact h
  | activate other => exact Registry.isEncrypted_activate h
  | remove other =>
    refine Registry.isEncrypted_of_credentials ?_ h
    refine (credentials_removeSession accessory other conn).trans (if_neg fun heq => ?_)
    exact hremove (congrArg SessionAction.remove heq)
  | attach other capacity =>
    exact Registry.isEncrypted_of_credentials (Registry.credentials_attach ..) h
  | detach other => exact Registry.isEncrypted_of_credentials (Registry.credentials_detach ..) h
  | encrypt other plaintext =>
    exact Registry.isEncrypted_of_credentials (Registry.credentials_encrypt ..) h
  | decrypt other raw =>
    exact Registry.isEncrypted_of_credentials (Registry.credentials_decrypt ..) h

/-- A session that is encrypted has a cipher, with these keys. -/
theorem cipher_of_isEncrypted {registry : Registry} (h : registry.isEncrypted conn = true) :
    ∃ session cipher, registry.session? conn = some session ∧ session.cipher = some cipher ∧
      (registry.credentials conn).keys = some cipher.keys := by
  unfold Registry.isEncrypted at h
  cases hsession : registry.session? conn with
  | none =>
    rw [hsession] at h
    cases h
  | some session =>
    rw [hsession] at h
    obtain ⟨cipher, hcipher⟩ := Option.isSome_iff_exists.1 h
    refine ⟨session, cipher, rfl, hcipher, ?_⟩
    rw [Registry.credentials, Registry.session_of_session? hsession]
    simp only [Session.credentials, hcipher, Option.map_some]

/-- The endpoints that are not open. -/
theorem isOpen_of_closed {path : String}
    (hpath : path ∈ ["/accessories", "/characteristics", "/pairings"]) (endpoint : Endpoint)
    (hendpoint : Endpoint.ofPath? path = some endpoint) : endpoint.isOpen = false := by
  simp only [List.mem_cons, List.not_mem_nil, or_false] at hpath
  rcases hpath with rfl | rfl | rfl
  · cases hendpoint
    rfl
  · cases hendpoint
    rfl
  · cases hendpoint
    rfl

/-- In every run from no sessions at all, an encrypted connection has the keys of a controller that
an M3 on it verified, and answers to the last one that was; only such connections get at what is not
open, and they stay encrypted until their session is removed. -/
theorem encrypted_verified (suite : CipherSuite) (accessory : Accessory)
    (history : List SessionAction) (conn : ConnectionId) :
    let start := accessory.setRegistry {}
    let now := start.run suite history
    let verified := verifications suite conn start history
    (now.registry.isEncrypted conn = true →
      ∃ last v session cipher, verified.head? = some last ∧
        now.registry.controllerOf conn = some last.id ∧ v ∈ verified ∧
        now.registry.session? conn = some session ∧ session.cipher = some cipher ∧
        cipher.keys = v.keys) ∧
    (∀ v, v ∈ verified ↔ ∃ before request after,
      history = before ++ .request conn request :: after ∧ .remove conn ∉ after ∧
        request.method = .post ∧ request.path = "/pair-verify" ∧
        (start.run suite before).verifies suite conn request.body = some v ∧
        ∃ tlv, Tlv.decode request.body = .ok tlv ∧ tlv.state? = some 3) ∧
    (∀ request : Http.Request,
      request.path ∈ ["/accessories", "/characteristics", "/pairings"] →
      (now.handle suite conn request).1.response.status ≠ 470 ∨
        (now.handle suite conn request).2 ≠ now →
      now.registry.isEncrypted conn = true ∧ verified ≠ []) ∧
    (∀ action, action ≠ .remove conn → now.registry.isEncrypted conn = true →
      (now.step suite action).registry.isEncrypted conn = true) := by
  intro start now verified
  have hgrounded : Grounded verified (now.registry.credentials conn) :=
    run_grounded suite accessory history conn
  have hencrypted : now.registry.isEncrypted conn = true →
      ∃ last v session cipher, verified.head? = some last ∧
        now.registry.controllerOf conn = some last.id ∧ v ∈ verified ∧
        now.registry.session? conn = some session ∧ session.cipher = some cipher ∧
        cipher.keys = v.keys := by
    intro h
    obtain ⟨session, cipher, hsession, hcipher, hkeys⟩ := cipher_of_isEncrypted h
    obtain ⟨v, hv, hvkeys⟩ := hgrounded.keys_mem _ hkeys
    cases hhead : verified.head? with
    | none =>
      rw [List.head?_eq_none_iff] at hhead
      rw [hhead] at hv
      cases hv
    | some last =>
      refine ⟨last, v, session, cipher, rfl, ?_, hv, hsession, hcipher, hvkeys.symm⟩
      rw [Registry.controllerOf_eq, if_pos h, hgrounded.controller_eq, hhead]
      rfl
  refine ⟨hencrypted, ?_, ?_, fun action => step_isEncrypted suite action⟩
  · intro v
    simp only [verified, mem_verifications_iff, verification_eq_some_iff]
  · intro request hpath hserved
    have h : now.registry.isEncrypted conn = true := by
      rw [← Bool.not_eq_false]
      intro hplain
      rw [handle_of_not_isEncrypted (isOpen_of_closed hpath) hplain] at hserved
      rcases hserved with hstatus | hchanged
      · exact hstatus rfl
      · exact hchanged rfl
    obtain ⟨last, v, _, _, -, -, hv, -⟩ := hencrypted h
    exact ⟨h, List.ne_nil_of_mem hv⟩

/-- An accessory that is paired with the controller of sevens. -/
def sevensAccessory : Accessory where
  store := .withController PairVerify.sevensController
  random := .constant 7
  setupCode := .default
  database := .refusing

/-- The controller of sevens verifies on connection 1, and its keys are put to use. -/
def sevensHistory : List SessionAction :=
  [.attach 1 8,
    .request 1 { method := .post, path := "/pair-verify", body := PairVerify.ninesCall.request },
    .request 1 { method := .post, path := "/pair-verify", body := PairVerify.sevensCall.request },
    .activate 1]

theorem encrypted_verified_sevens :
    let start := sevensAccessory.setRegistry {}
    let now := start.run .transparent sevensHistory
    let verified := verifications .transparent 1 start sevensHistory
    now.registry.isEncrypted 1 = true ∧
    ∃ last v session cipher, verified.head? = some last ∧
      now.registry.controllerOf 1 = some last.id ∧ v ∈ verified ∧
      now.registry.session? 1 = some session ∧ session.cipher = some cipher ∧
      cipher.keys = v.keys := by
  have h : ((sevensAccessory.setRegistry {}).run .transparent
      sevensHistory).registry.isEncrypted 1 = true := by
    decide +kernel
  exact ⟨h, (encrypted_verified .transparent sevensAccessory sevensHistory 1).1 h⟩

end Accessory

end HomeKit
