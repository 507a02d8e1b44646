import HomeKit.Proofs.Pairing.SetupComplete
import HomeKit.Proofs.Pairing.Verify

/-!
# A session that is opened

A paired controller and its accessory run pair-verify from whatever state they are in: M1 begins
anew on both sides. Each side sees the other's agreement with the two public keys exchanged
(`KeyAgreement.mirror`), so the transcript that one signs is the one that the other checks. Each
side accepts what the other has written (`ControllerVerify.checkM2_responseM2`,
`PairVerify.accept_messageM3`), and in the end they hold each other's keys, which come from the
shared secret alone (`VerifyPair.exchange_opens`).
-/

namespace HomeKit

variable {suite : CipherSuite}

/-! ## Agreements -/

/-- Two sides come to one secret, which is not zero. -/
def CipherSuite.SharesSecrets (suite : CipherSuite) : Prop :=
  ∀ first second,
    suite.exchange first (suite.exchangeKey second) =
        suite.exchange second (suite.exchangeKey first) ∧
      suite.exchange first (suite.exchangeKey second) ≠ .replicate 32 0

theorem CipherSuite.transparent_sharesSecrets : transparent.SharesSecrets := by
  intro first second
  refine ⟨rfl, ?_⟩
  change (Octets.replicate 32 1 : Octets 32) ≠ .replicate 32 0
  decide

namespace KeyAgreement

/-- The agreement as the other side sees it. -/
def mirror (agreement : KeyAgreement) : KeyAgreement where
  localKey := agreement.peerKey
  peerKey := agreement.localKey
  shared := agreement.shared

/-- The transcript that one side signs is the one that the other side checks. -/
theorem localTranscript_mirror (agreement : KeyAgreement) (id : Bytes) :
    agreement.mirror.localTranscript id = agreement.peerTranscript id :=
  rfl

theorem verifyKey_mirror (suite : CipherSuite) (agreement : KeyAgreement) :
    agreement.mirror.verifyKey suite = agreement.verifyKey suite :=
  rfl

end KeyAgreement

namespace EphemeralKey

/-- What two keys agree on, as the side of the first sees it. -/
def agreement (suite : CipherSuite) (key peer : EphemeralKey) : KeyAgreement where
  localKey := key.publicKey suite
  peerKey := peer.publicKey suite
  shared := suite.exchange key.secret (peer.publicKey suite)

theorem agree_publicKey (hshares : suite.SharesSecrets) (key peer : EphemeralKey) :
    key.agree suite (peer.publicKey suite) = .ok (key.agreement suite peer) := by
  obtain ⟨-, hnonzero⟩ := hshares key.secret peer.secret
  unfold agree
  exact if_neg hnonzero

theorem agreement_mirror (hshares : suite.SharesSecrets) (key peer : EphemeralKey) :
    (key.agreement suite peer).mirror = peer.agreement suite key := by
  obtain ⟨hsame, -⟩ := hshares key.secret peer.secret
  unfold agreement KeyAgreement.mirror publicKey
  rw [hsame]

end EphemeralKey

/-! ## Signed transcripts -/

/-- What stands in M2 and M3: an identifier and the signature of a transcript with it. -/
def KeyAgreement.signedTranscript (suite : CipherSuite) (agreement : KeyAgreement) (id : Bytes)
    (key : SigningKey) : Tlv :=
  .ofList [(.identifier, id), (.signature, (key.sign suite (agreement.localTranscript id)).bytes)]

/-- A signed transcript is read as it was written, and the other side accepts its signature. -/
theorem KeyAgreement.signedTranscript_accepted (hverifies : suite.VerifiesSignatures)
    (agreement : KeyAgreement) (id : Bytes) (key : SigningKey) :
    let inner := agreement.mirror.signedTranscript suite id key
    Tlv.decode inner.encode = .ok inner ∧ inner.get? .identifier = some id ∧
      ∃ signature, inner.get? .signature = some signature ∧
        suite.checkSignature (key.publicKey suite) (agreement.peerTranscript id) signature =
          .ok () := by
  intro inner
  refine ⟨Tlv.decode_encode_ofList (by simp), ?_, _, ?_, hverifies.checkSignature key _⟩
  · simp [inner, signedTranscript]
  · simp [inner, signedTranscript, localTranscript_mirror]

/-! ## What the controller takes -/

namespace ControllerVerify

variable {verify : ControllerVerify} {agreement : KeyAgreement}

/-- The key for the next M1. -/
def takeKey (verify : ControllerVerify) (random : Entropy) : EphemeralKey × Entropy :=
  match verify.fixedKey with
  | some key => (key, random)
  | none => EphemeralKey.generate random

/-- M1 does not depend on how far an earlier exchange has come. -/
theorem sendM1_eq (suite : CipherSuite) (verify : ControllerVerify) (random : Entropy) :
    verify.sendM1 suite random =
      ((Tlv.pairVerifyM1 ((verify.takeKey random).1.publicKey suite)).encode,
        { verify with stage := .m1Sent (some (verify.takeKey random).1) },
        (verify.takeKey random).2) := by
  unfold sendM1 takeKey
  cases verify.fixedKey with
  | none => rfl
  | some key => rfl

/-- The controller comes to the agreement of which M2 tells, if the accessory has the key it is
known by. -/
theorem checkM2_responseM2 (hopens : suite.UndoesEncryption) (hverifies : suite.VerifiesSignatures)
    {key : EphemeralKey} {identity : AccessoryIdentity}
    (hagree : key.agree suite agreement.peerKey = .ok agreement)
    (haccessory : verify.accessoryKey = identity.key.publicKey suite) :
    verify.checkM2 suite key (PairVerify.responseM2 suite identity agreement.mirror) =
      .ok agreement := by
  let response := PairVerify.responseM2 suite identity agreement.mirror
  let inner := agreement.mirror.signedTranscript suite (utf8 identity.identifier) identity.key
  let box := suite.encryptNamed (agreement.verifyKey suite) PairVerify.nonceM2 inner.encode
  have hkey : response.require .publicKey = .ok agreement.peerKey.bytes :=
    Tlv.require_eq_ok_iff.2 (by simp [response, PairVerify.responseM2, KeyAgreement.mirror])
  have hpublic : publicKeyOfBytes agreement.peerKey.bytes = .ok agreement.peerKey :=
    PairSetup.publicKeyOfBytes_eq_ok_iff.2 rfl
  have hbox : response.require .encryptedData = .ok box :=
    Tlv.require_eq_ok_iff.2 (by
      simp [response, PairVerify.responseM2, box, inner, KeyAgreement.signedTranscript,
        KeyAgreement.verifyKey_mirror])
  have hopen : suite.decryptNamed (agreement.verifyKey suite) PairVerify.nonceM2 box =
      .ok inner.encode := hopens ..
  obtain ⟨hdecode, hid, signature, hsignature, hcheck⟩ :=
    agreement.signedTranscript_accepted hverifies (utf8 identity.identifier) identity.key
  rw [← Tlv.require_eq_ok_iff] at hid hsignature
  unfold checkM2
  simp only [hkey, hpublic, hagree, hbox, hopen, hdecode, hid, hsignature, haccessory, hcheck,
    pairingPart, cryptoPart, parsePart, bind, Except.bind, pure, Except.pure, response, inner]

theorem takeM2_responseM2 (hopens : suite.UndoesEncryption) (hverifies : suite.VerifiesSignatures)
    {key : EphemeralKey} {identity : AccessoryIdentity}
    (hstage : verify.stage = .m1Sent (some key))
    (hagree : key.agree suite agreement.peerKey = .ok agreement)
    (haccessory : verify.accessoryKey = identity.key.publicKey suite) :
    verify.takeM2 suite (PairVerify.responseM2 suite identity agreement.mirror).encode =
      (.ok (), { verify with stage := .m2Received agreement }) := by
  have hparse : parseResponse (PairVerify.responseM2 suite identity agreement.mirror).encode 2 =
      .ok (PairVerify.responseM2 suite identity agreement.mirror) :=
    ControllerSetup.parseResponse_encode (by simp) rfl rfl
  have hcheck : verify.checkM2 suite key _ = .ok agreement :=
    checkM2_responseM2 hopens hverifies hagree haccessory
  unfold takeM2
  rw [hstage]
  simp only [hparse, hcheck]

theorem takeM4_accepted (hstage : verify.stage = .m3Sent agreement) :
    verify.takeM4 suite (Tlv.ofList [(.state, [4])]).encode =
      (.ok (.forController suite agreement.shared.bytes), { verify with stage := .complete }) := by
  have hparse : parseResponse (Tlv.ofList [(.state, [4])]).encode 4 =
      .ok (Tlv.ofList [(.state, [4])]) := ControllerSetup.parseResponse_encode (by simp) rfl rfl
  unfold takeM4
  rw [hstage]
  simp only [hparse]

end ControllerVerify

/-! ## What the accessory takes -/

namespace PairVerify

variable {machine : PairVerify} {agreement : KeyAgreement} {store : IdentityStore}

/-- M1 is answered in whatever state the machine is. -/
theorem handle_pairVerifyM1 (store : IdentityStore) {random : Entropy}
    (hagree : (machine.takeKey random).1.agree suite agreement.peerKey = .ok agreement) :
    handle suite store machine (Tlv.pairVerifyM1 agreement.peerKey).encode random =
      ({ body := (responseM2 suite store.identity agreement).encode }, ⟨none, some agreement⟩,
        (machine.takeKey random).2) := by
  have hdecode : Tlv.decode (Tlv.pairVerifyM1 agreement.peerKey).encode =
      .ok (Tlv.pairVerifyM1 agreement.peerKey) := Tlv.decode_encode_ofList (by simp)
  have hstate : (Tlv.pairVerifyM1 agreement.peerKey).state?.getD 0 = 1 := rfl
  have hkey : (Tlv.pairVerifyM1 agreement.peerKey).require .publicKey =
      .ok agreement.peerKey.bytes := Tlv.require_eq_ok_iff.2 (by simp [Tlv.pairVerifyM1])
  unfold handle handleM1
  simp only [hdecode, hstate, if_true, hkey, Octets.ofBytes?_bytes, takeKey_idle, hagree]

/-- The controller that M3 proves to be there is the paired one with that identity. -/
theorem accept_messageM3 (hopens : suite.UndoesEncryption) (hverifies : suite.VerifiesSignatures)
    {identity : ControllerIdentity} {permissions : Permissions}
    (hpaired : store.controller? identity.id =
      some ⟨identity.id, identity.key.publicKey suite, permissions⟩) :
    accept suite store agreement (ControllerVerify.messageM3 suite identity agreement.mirror) =
      .ok ⟨identity.id, .forAccessory suite agreement.shared.bytes⟩ := by
  let request := ControllerVerify.messageM3 suite identity agreement.mirror
  let inner := agreement.mirror.signedTranscript suite (utf8 identity.id) identity.key
  let box := suite.encryptNamed (agreement.verifyKey suite) nonceM3 inner.encode
  have hbox : request.require .encryptedData = .ok box :=
    Tlv.require_eq_ok_iff.2 (by
      simp [request, ControllerVerify.messageM3, box, inner, KeyAgreement.signedTranscript,
        KeyAgreement.verifyKey_mirror])
  have hopen : suite.decryptNamed (agreement.verifyKey suite) nonceM3 box = .ok inner.encode :=
    hopens ..
  obtain ⟨hdecode, hid, signature, hsignature, hcheck⟩ :=
    agreement.signedTranscript_accepted hverifies (utf8 identity.id) identity.key
  unfold accept
  simp only [hbox, hopen, hdecode, hid, hsignature, hpaired, hcheck, text?_utf8, Except.toOption,
    Option.bind, bind, Except.bind, pure, Except.pure, request, inner]

theorem handle_messageM3 (hopens : suite.UndoesEncryption) (hverifies : suite.VerifiesSignatures)
    {identity : ControllerIdentity} {permissions : Permissions} (random : Entropy)
    (hpending : machine.pending = some agreement)
    (hpaired : store.controller? identity.id =
      some ⟨identity.id, identity.key.publicKey suite, permissions⟩) :
    handle suite store machine
        (ControllerVerify.messageM3 suite identity agreement.mirror).encode random =
      ({ body := (Tlv.ofList [(.state, [4])]).encode
         verified := some ⟨identity.id, .forAccessory suite agreement.shared.bytes⟩ },
        { machine with pending := none }, random) := by
  have hdecode : Tlv.decode (ControllerVerify.messageM3 suite identity agreement.mirror).encode =
      .ok (ControllerVerify.messageM3 suite identity agreement.mirror) :=
    Tlv.decode_encode_ofList (by simp)
  have hstate :
      (ControllerVerify.messageM3 suite identity agreement.mirror).state?.getD 0 = 3 := rfl
  have haccept : handleM3 suite store machine
      (ControllerVerify.messageM3 suite identity agreement.mirror) =
        .ok ⟨identity.id, .forAccessory suite agreement.shared.bytes⟩ := by
    unfold handleM3
    rw [hpending]
    exact accept_messageM3 hopens hverifies hpaired
  unfold handle
  simp only [hdecode, hstate, haccept]
  rfl

end PairVerify

/-! ## The exchange -/

/-- The two sides of pair-verify, each with randomness of its own. -/
structure VerifyPair where
  verify : ControllerVerify
  controllerRandom : Entropy
  machine : PairVerify
  accessoryRandom : Entropy

/-- What an exchange comes to: the controller that the accessory reports, the controller's keys, and
the two sides. -/
structure OpenedSession where
  reported : Option VerifiedController
  keys : SessionKeys
  pair : VerifyPair

namespace VerifyPair

/-- The key that the controller brings to the next exchange. -/
def controllerKey (pair : VerifyPair) : EphemeralKey :=
  (pair.verify.takeKey pair.controllerRandom).1

/-- The key that the accessory brings to the next exchange. -/
def accessoryKey (pair : VerifyPair) : EphemeralKey :=
  (pair.machine.takeKey pair.accessoryRandom).1

/-- The whole exchange, up to the first call of the controller that fails. -/
def exchange (suite : CipherSuite) (store : IdentityStore) (pair : VerifyPair) :
    Except Error OpenedSession :=
  let (m1, verify, controllerRandom) := pair.verify.sendM1 suite pair.controllerRandom
  let (m2, machine, accessoryRandom) := pair.machine.handle suite store m1 pair.accessoryRandom
  match verify.takeM2 suite m2.body with
  | (.error error, _) => .error error
  | (.ok _, verify) =>
    match verify.sendM3 suite with
    | (.error error, _) => .error error
    | (.ok m3, verify) =>
      let (m4, machine, accessoryRandom) := machine.handle suite store m3 accessoryRandom
      match verify.takeM4 suite m4.body with
      | (.error error, _) => .error error
      | (.ok keys, verify) =>
        .ok ⟨m4.verified, keys, { verify, controllerRandom, machine, accessoryRandom }⟩

/-- Calls that all succeed make an exchange. -/
theorem exchange_eq_ok {store : IdentityStore} {pair : VerifyPair} {m1 m3 : Bytes}
    {m2 m4 : VerifyResponse} {started received sent complete : ControllerVerify}
    {due finished : PairVerify} {controllerRandom accessoryRandom left : Entropy}
    {keys : SessionKeys}
    (hm1 : pair.verify.sendM1 suite pair.controllerRandom = (m1, started, controllerRandom))
    (hm2 : pair.machine.handle suite store m1 pair.accessoryRandom = (m2, due, accessoryRandom))
    (htaken : started.takeM2 suite m2.body = (.ok (), received))
    (hm3 : received.sendM3 suite = (.ok m3, sent))
    (hm4 : due.handle suite store m3 accessoryRandom = (m4, finished, left))
    (hkeys : sent.takeM4 suite m4.body = (.ok keys, complete)) :
    exchange suite store pair =
      .ok ⟨m4.verified, keys, ⟨complete, controllerRandom, finished, left⟩⟩ := by
  unfold exchange
  simp only [hm1, hm2, htaken, hm3, hm4, hkeys]

/-- A paired controller that knows its accessory's key opens a session with it, whatever the two
sides were given before and whichever ephemeral keys they bring. The accessory reports that
controller. Each side encrypts with the key that the other decrypts with, and the keys depend on the
shared secret alone. -/
theorem exchange_opens (suite : CipherSuite) (hopens : suite.UndoesEncryption)
    (hverifies : suite.VerifiesSignatures) (hshares : suite.SharesSecrets) (store : IdentityStore)
    (permissions : Permissions) (pair : VerifyPair)
    (haccessory : pair.verify.accessoryKey = store.identity.key.publicKey suite)
    (hpaired : store.controller? pair.verify.identity.id =
      some ⟨pair.verify.identity.id, pair.verify.identity.key.publicKey suite, permissions⟩) :
    let secret := suite.exchange pair.controllerKey.secret (pair.accessoryKey.publicKey suite)
    ∃ opened keys, exchange suite store pair = .ok opened ∧
      opened.reported = some ⟨pair.verify.identity.id, keys⟩ ∧
      keys.encrypt = opened.keys.decrypt ∧ keys.decrypt = opened.keys.encrypt ∧
      keys = .forAccessory suite secret.bytes ∧ opened.keys = .forController suite secret.bytes ∧
      opened.pair.verify.isComplete = true ∧ opened.pair.machine = {} := by
  intro secret
  let agreement := pair.controllerKey.agreement suite pair.accessoryKey
  have hcontroller : pair.controllerKey.agree suite agreement.peerKey = .ok agreement :=
    EphemeralKey.agree_publicKey hshares ..
  have hagree : pair.accessoryKey.agree suite agreement.mirror.peerKey = .ok agreement.mirror := by
    have hmirror := EphemeralKey.agreement_mirror hshares pair.controllerKey pair.accessoryKey
    have haccessory := EphemeralKey.agree_publicKey hshares pair.accessoryKey pair.controllerKey
    rw [← hmirror] at haccessory
    exact haccessory
  let started : ControllerVerify := { pair.verify with stage := .m1Sent (some pair.controllerKey) }
  let sent : ControllerVerify := { pair.verify with stage := .m3Sent agreement }
  let due : PairVerify := ⟨none, some agreement.mirror⟩
  have hm2 := PairVerify.handle_pairVerifyM1 store hagree
  have htaken : started.takeM2 suite
      (PairVerify.responseM2 suite store.identity agreement.mirror).encode =
        (.ok (), { pair.verify with stage := .m2Received agreement }) :=
    ControllerVerify.takeM2_responseM2 hopens hverifies rfl hcontroller haccessory
  have hm4 : due.handle suite store
      (ControllerVerify.messageM3 suite pair.verify.identity agreement.mirror.mirror).encode
        (pair.machine.takeKey pair.accessoryRandom).2 =
      ({ body := (Tlv.ofList [(.state, [4])]).encode
         verified := some ⟨pair.verify.identity.id,
           .forAccessory suite agreement.mirror.shared.bytes⟩ },
        {}, (pair.machine.takeKey pair.accessoryRandom).2) :=
    PairVerify.handle_messageM3 hopens hverifies _ rfl hpaired
  have hkeys : sent.takeM4 suite (Tlv.ofList [(.state, [4])]).encode =
      (.ok (.forController suite agreement.shared.bytes),
        { pair.verify with stage := .complete }) :=
    ControllerVerify.takeM4_accepted rfl
  have hm1 := ControllerVerify.sendM1_eq suite pair.verify pair.controllerRandom
  have hexchange := exchange_eq_ok hm1 hm2 htaken rfl hm4 hkeys
  exact ⟨_, _, hexchange, rfl, rfl, rfl, rfl, rfl, rfl, rfl⟩

/-- A machine that waits for the M3 of another exchange, and a controller that waits for the M4 of
one. -/
theorem exchange_opens_restarted :
    let identity : ControllerIdentity := ⟨"c", ⟨.replicate 32 7⟩⟩
    let store : IdentityStore := .withController PairVerify.sevensController
    let stale : KeyAgreement := ⟨.replicate 32 3, .replicate 32 4, .replicate 32 5⟩
    let pair : VerifyPair :=
      { verify :=
          { identity
            accessoryKey := store.identity.key.publicKey .transparent
            stage := .m3Sent stale }
        controllerRandom := .constant 8
        machine := { fixedKey := some ⟨.replicate 32 9⟩, pending := some stale }
        accessoryRandom := .constant 6 }
    CipherSuite.transparent.UndoesEncryption ∧ CipherSuite.transparent.VerifiesSignatures ∧
      CipherSuite.transparent.SharesSecrets ∧
      store.controller? "c" = some ⟨"c", identity.key.publicKey .transparent, .admin⟩ ∧
      ∃ opened keys, exchange .transparent store pair = .ok opened ∧
        opened.reported = some ⟨"c", keys⟩ ∧ keys = opened.keys.swap := by
  intro identity store stale pair
  have hpaired : store.controller? "c" =
      some ⟨"c", identity.key.publicKey .transparent, .admin⟩ := by decide +kernel
  obtain ⟨opened, keys, hexchange, hreported, -, -, hkeys, hcontroller, -, -⟩ :=
    exchange_opens .transparent CipherSuite.transparent_undoesEncryption
      CipherSuite.transparent_verifiesSignatures CipherSuite.transparent_sharesSecrets store .admin
      pair rfl hpaired
  refine ⟨CipherSuite.transparent_undoesEncryption, CipherSuite.transparent_verifiesSignatures,
    CipherSuite.transparent_sharesSecrets, hpaired, opened, keys, hexchange, hreported, ?_⟩
  rw [hkeys, hcontroller]
  rfl

end VerifyPair

end HomeKit
