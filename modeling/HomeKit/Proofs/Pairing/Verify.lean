import HomeKit.Pairing.PairVerify
import HomeKit.Proofs.Pairing.Store

/-!
# Soundness of pair-verify

A machine is called any number of times, with any requests, and the store may change between the
calls. What a call can do is said once: a call leaves an agreement behind exactly if it is an M1
that is answered (`handle_pending_iff`), and it verifies a controller exactly if it is an M3 that
finds such an agreement and proves the controller's key (`handle_verified_iff`). So a controller is
only verified right after an M1 that was answered, and no M1 verifies two (`verified_sound`).
-/

namespace HomeKit

namespace PairVerify

variable {suite : CipherSuite} {store : IdentityStore} {machine : PairVerify} {request : Bytes}
  {random : Entropy} {agreement : KeyAgreement} {verified : VerifiedController}

/-! ## M1 -/

/-- The request is an M1 with a public key that the machine's key agrees with. -/
def Agrees (suite : CipherSuite) (machine : PairVerify) (random : Entropy) (request : Bytes)
    (agreement : KeyAgreement) : Prop :=
  ∃ tlv, Tlv.decode request = .ok tlv ∧ tlv.state? = some 1 ∧
    tlv.get? .publicKey = some agreement.peerKey.bytes ∧
    (machine.takeKey random).1.agree suite agreement.peerKey = .ok agreement

/-- The key of an M1 does not depend on what is pending. -/
theorem takeKey_idle : takeKey { fixedKey := machine.fixedKey } random = machine.takeKey random :=
  rfl

theorem agree_peerKey {key : EphemeralKey} {peerKey : Octets 32}
    (h : key.agree suite peerKey = .ok agreement) : agreement.peerKey = peerKey := by
  unfold EphemeralKey.agree at h
  simp only at h
  split at h
  · cases h
  · cases h
    rfl

theorem handleM1_pending_iff (store : IdentityStore) {tlv : Tlv} :
    (handleM1 suite store.identity machine tlv random).2.1.pending = some agreement ↔
      tlv.get? .publicKey = some agreement.peerKey.bytes ∧
        (machine.takeKey random).1.agree suite agreement.peerKey = .ok agreement := by
  unfold handleM1 Tlv.require
  cases hkey : tlv.get? .publicKey with
  | none => simp
  | some bytes =>
    simp only [Option.some.injEq]
    cases hpeer : Octets.ofBytes? 32 bytes with
    | none =>
      simp only [reduceCtorEq, false_iff, not_and]
      intro hbytes
      rw [hbytes, Octets.ofBytes?_bytes] at hpeer
      cases hpeer
    | some peerKey =>
      have hbytes : peerKey.bytes = bytes := Octets.ofBytes?_eq_some_iff.1 hpeer
      subst hbytes
      cases hagree : (machine.takeKey random).1.agree suite peerKey with
      | error error =>
        simp only [takeKey_idle, hagree, reduceCtorEq, false_iff, not_and]
        intro hbytes
        simp [← Octets.ext hbytes, hagree]
      | ok found =>
        simp only [takeKey_idle, hagree, Option.some.injEq]
        constructor
        · rintro rfl
          rw [agree_peerKey hagree]
          exact ⟨rfl, hagree⟩
        · rintro ⟨hbytes, h⟩
          rw [← Octets.ext hbytes, hagree] at h
          exact Except.ok.inj h

/-- An answered M1 is answered with the accessory's signature over the agreement. -/
theorem handleM1_response {tlv : Tlv}
    (h : (handleM1 suite store.identity machine tlv random).2.1.pending = some agreement) :
    (handleM1 suite store.identity machine tlv random).1 =
      .ok (responseM2 suite store.identity agreement) := by
  obtain ⟨hkey, hagree⟩ := (handleM1_pending_iff store).1 h
  unfold handleM1 Tlv.require
  simp only [hkey, Octets.ofBytes?_bytes, takeKey_idle, hagree]

/-! ## M3 -/

/-- The M3 brings an encrypted message, under the agreement's key, with the identifier of a paired
controller and that controller's signature over the agreement; the session's keys are those of the
agreed secret. -/
def Accepts (suite : CipherSuite) (store : IdentityStore) (agreement : KeyAgreement) (request : Tlv)
    (verified : VerifiedController) : Prop :=
  ∃ box message inner signature controller,
    request.get? .encryptedData = some box ∧
    suite.decryptNamed (agreement.verifyKey suite) nonceM3 box = .ok message ∧
    Tlv.decode message = .ok inner ∧
    inner.get? .identifier = some (utf8 verified.id) ∧
    inner.get? .signature = some signature ∧
    store.controller? verified.id = some controller ∧
    suite.checkSignature controller.publicKey
      (agreement.peerKey.bytes ++ utf8 verified.id ++ agreement.localKey.bytes) signature = .ok () ∧
    verified.keys = .forAccessory suite agreement.shared.bytes

theorem accept_eq_ok_iff (hstore : store.Reachable) {tlv : Tlv} :
    accept suite store agreement tlv = .ok verified ↔
      Accepts suite store agreement tlv verified := by
  unfold accept accept.failed
  simp only [bind, Except.bind]
  constructor
  · intro h
    split at h
    · cases h
    · rename_i box hbox
      split at h
      · rename_i message hmessage
        split at h
        · rename_i inner hinner
          split at h
          · rename_i id hid
            split at h
            · rename_i signature hsignature
              split at h
              · rename_i controller hcontroller
                split at h
                · rename_i hcheck
                  cases h
                  have hname : controller.id = id := hstore.id_eq hcontroller
                  obtain ⟨idBytes, hidBytes, htext⟩ := Option.bind_eq_some_iff.1 hid
                  rw [text?_eq_some_iff] at htext
                  subst hname htext
                  exact ⟨box, message, inner, signature, controller, Tlv.require_eq_ok_iff.1 hbox,
                    toOption_eq_some_iff.1 hmessage, toOption_eq_some_iff.1 hinner, hidBytes,
                    hsignature, hcontroller, toOption_eq_some_iff.1 hcheck, rfl⟩
                · cases h
              · cases h
            · cases h
          · cases h
        · cases h
      · cases h
  · rintro ⟨box, message, inner, signature, controller, hbox, hmessage, hinner, hid, hsignature,
      hcontroller, hcheck, hkeys⟩
    simp only [Tlv.require_eq_ok_iff.2 hbox, hmessage, hinner, hid, hsignature, hcontroller,
      Except.toOption, Option.bind, text?_utf8, KeyAgreement.peerTranscript, hcheck,
      hstore.id_eq hcontroller, ← hkeys]
    rfl

/-! ## Calls -/

/-- A call leaves an agreement behind exactly if it is an M1 that is answered. -/
theorem handle_pending_iff :
    (handle suite store machine request random).2.1.pending = some agreement ↔
      Agrees suite machine random request agreement := by
  unfold handle Agrees
  cases hdecode : Tlv.decode request with
  | error error => simp
  | ok tlv =>
    simp only [Except.ok.injEq, exists_eq_left', ← handleM1_pending_iff store]
    rw [← Tlv.state?_getD_eq_iff (by decide)]
    by_cases h1 : tlv.state?.getD 0 = 1
    · simp only [h1, if_true, true_and]
      split <;> rename_i heq <;> rw [heq]
    · simp only [h1, if_false, false_and, iff_false]
      by_cases h3 : tlv.state?.getD 0 = 3
      · simp only [h3, if_true]
        split <;> simp
      · simp [h3]

/-- A call verifies a controller exactly if it is an M3 that finds an agreement and is accepted. -/
theorem handle_verified_iff :
    (handle suite store machine request random).1.verified = some verified ↔
      ∃ tlv agreement, Tlv.decode request = .ok tlv ∧ tlv.state? = some 3 ∧
        machine.pending = some agreement ∧ accept suite store agreement tlv = .ok verified := by
  unfold handle
  cases hdecode : Tlv.decode request with
  | error error => simp [failure]
  | ok tlv =>
    simp only [Except.ok.injEq, exists_and_left, exists_eq_left']
    rw [← Tlv.state?_getD_eq_iff (by decide)]
    by_cases h1 : tlv.state?.getD 0 = 1
    · simp only [h1, if_true]
      split <;> simp [failure]
    · by_cases h3 : tlv.state?.getD 0 = 3
      · simp only [h3]
        unfold handleM3
        cases machine.pending with
        | none => simp [failure]
        | some agreement =>
          cases haccept : accept suite store agreement tlv with
          | error error => simp [failure, haccept]
          | ok found => simp [haccept]
      · simp [h1, h3, failure]

/-- An answered M1 is answered with the accessory's signature over the agreement. -/
theorem body_of_agrees (h : Agrees suite machine random request agreement) :
    (handle suite store machine request random).1.body =
      (responseM2 suite store.identity agreement).encode := by
  obtain ⟨tlv, hdecode, hstate, hagree⟩ := h
  have hm1 := handleM1_response ((handleM1_pending_iff store).2 hagree)
  unfold handle
  simp only [hdecode, hstate, Option.getD_some, if_true]
  split <;> rename_i heq <;> rw [heq] at hm1 <;> cases hm1
  rfl

/-- Pair-verify verifies paired controllers only. -/
theorem isSome_of_verified (h : store.Reachable)
    (hverified : (machine.handle suite store request random).1.verified = some verified) :
    (store.controller? verified.id).isSome = true := by
  obtain ⟨tlv, agreement, -, -, -, haccept⟩ := handle_verified_iff.1 hverified
  obtain ⟨box, message, inner, signature, controller, -, -, -, -, -, hcontroller, -, -⟩ :=
    (accept_eq_ok_iff h).1 haccept
  rw [hcontroller]
  rfl

end PairVerify

/-! ## Runs -/

/-- A call of a machine: the store as it is at that time, and the request. -/
structure VerifyCall where
  store : IdentityStore
  request : Bytes

namespace PairVerify

variable {state : PairVerify × Entropy}

/-- Calls a machine. -/
def call (suite : CipherSuite) (state : PairVerify × Entropy) (call : VerifyCall) :
    VerifyResponse × PairVerify × Entropy :=
  handle suite call.store state.1 call.request state.2

/-- The machine and the randomness after some calls. -/
def callAll (suite : CipherSuite) (state : PairVerify × Entropy) (calls : List VerifyCall) :
    PairVerify × Entropy :=
  calls.foldl (fun state next => (call suite state next).2) state

/-- What each call gives. -/
def outcomes (suite : CipherSuite) :
    PairVerify × Entropy → List VerifyCall → List (VerifyResponse × PairVerify × Entropy)
  | _, [] => []
  | state, next :: rest => call suite state next :: outcomes suite (call suite state next).2 rest

/-- The calls that verify a controller are at most as many as the M1s that are answered, and the one
that may be pending at the start. -/
theorem countP_verified_le (calls : List VerifyCall) (state : PairVerify × Entropy) :
    (outcomes suite state calls).countP (·.1.verified.isSome) ≤
      (outcomes suite state calls).countP (·.2.1.isPending) +
        if state.1.isPending then 1 else 0 := by
  induction calls generalizing state with
  | nil => simp [outcomes]
  | cons next rest ih =>
    have hrest := ih (call suite state next).2
    have hstep : (call suite state next).1.verified.isSome → state.1.isPending := by
      intro h
      obtain ⟨verified, hv⟩ := Option.isSome_iff_exists.1 h
      obtain ⟨-, agreement, -, -, hpending, -⟩ := handle_verified_iff.1 hv
      rw [isPending, hpending]
      rfl
    have hcount : (if (call suite state next).1.verified.isSome then 1 else 0) ≤
        if state.1.isPending then 1 else 0 := by
      split
      · rename_i hv
        exact Nat.le_of_eq (if_pos (hstep hv)).symm
      · exact Nat.zero_le _
    simp only [outcomes, List.countP_cons]
    omega

/-- A machine before its first call, with a key for its first M1 if one is given. -/
def fresh (fixedKey : Option EphemeralKey) (random : Entropy) : PairVerify × Entropy :=
  ({ fixedKey }, random)

/-- A controller is verified only by an M3 that is accepted and that comes right after an M1 that
was answered; every M1 leads to at most one verified controller. -/
theorem verified_sound (suite : CipherSuite) (fixedKey : Option EphemeralKey) (random : Entropy)
    (calls : List VerifyCall) (hstores : ∀ c ∈ calls, c.store.Reachable) :
    (∀ before next after verified, calls = before ++ next :: after →
      (call suite (callAll suite (fresh fixedKey random) before) next).1.verified = some verified →
      ∃ earlier first agreement tlv, before = earlier ++ [first] ∧
        Agrees suite (callAll suite (fresh fixedKey random) earlier).1
          (callAll suite (fresh fixedKey random) earlier).2 first.request agreement ∧
        (call suite (callAll suite (fresh fixedKey random) earlier) first).1.body =
          (responseM2 suite first.store.identity agreement).encode ∧
        Tlv.decode next.request = .ok tlv ∧ tlv.state? = some 3 ∧
        Accepts suite next.store agreement tlv verified) ∧
    (outcomes suite (fresh fixedKey random) calls).countP (·.1.verified.isSome) ≤
      (outcomes suite (fresh fixedKey random) calls).countP (·.2.1.isPending) := by
  constructor
  · intro before next after verified hcalls hv
    obtain ⟨tlv, agreement, hdecode, hstate, hpending, haccept⟩ := handle_verified_iff.1 hv
    have hstore : next.store.Reachable := hstores next (by simp [hcalls])
    rcases List.eq_nil_or_concat before with rfl | ⟨earlier, first, rfl⟩
    · cases hpending
    · rw [List.concat_eq_append, callAll, List.foldl_append] at hpending
      have hagrees := handle_pending_iff.1 hpending
      exact ⟨earlier, first, agreement, tlv, List.concat_eq_append, hagrees,
        body_of_agrees hagrees, hdecode, hstate, (accept_eq_ok_iff hstore).1 haccept⟩
  · exact countP_verified_le calls _

/-- A controller whose public key is all sevens. -/
def sevensController : PairedController where
  id := "c"
  publicKey := .replicate 32 7
  permissions := .admin

/-- An M1 with a public key of nines. -/
def ninesCall : VerifyCall where
  store := .withController sevensController
  request := (Tlv.pairVerifyM1 (.replicate 32 9)).encode

/-- The M3 of the controller of sevens. -/
def sevensCall : VerifyCall where
  store := .withController sevensController
  request := (Tlv.ofList [(.state, [3]), (.encryptedData,
    (Tlv.ofList [(.identifier, [0x63]), (.signature, List.replicate 64 7)]).encode ++
      CipherSuite.emptyTag)]).encode

theorem verified_sound_sevens :
    (∀ c ∈ [ninesCall, sevensCall], c.store.Reachable) ∧
    ∃ earlier first agreement tlv, [ninesCall] = earlier ++ [first] ∧
      Agrees .transparent (callAll .transparent (fresh none (.constant 7)) earlier).1
        (callAll .transparent (fresh none (.constant 7)) earlier).2 first.request agreement ∧
      (call .transparent (callAll .transparent (fresh none (.constant 7)) earlier) first).1.body =
        (responseM2 .transparent first.store.identity agreement).encode ∧
      Tlv.decode sevensCall.request = .ok tlv ∧ tlv.state? = some 3 ∧
      Accepts .transparent sevensCall.store agreement tlv
        ⟨"c", .forAccessory .transparent (List.replicate 32 1)⟩ := by
  have hstores : ∀ c ∈ [ninesCall, sevensCall], c.store.Reachable := by
    intro c hc
    simp only [List.mem_cons, List.not_mem_nil, or_false] at hc
    rcases hc with rfl | rfl
    · exact IdentityStore.withController_reachable _
    · exact IdentityStore.withController_reachable _
  exact ⟨hstores, (verified_sound .transparent none (.constant 7) [ninesCall, sevensCall] hstores).1
    [ninesCall] sevensCall [] _ rfl (by decide +kernel)⟩

end PairVerify

end HomeKit
