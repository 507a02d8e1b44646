import HomeKit.Pairing.ControllerSide
import HomeKit.Proofs.Crypto.Laws
import HomeKit.Proofs.Crypto.SrpAgreement
import HomeKit.Proofs.Pairing.Changes
import HomeKit.Proofs.Pairing.SetupCalls
import HomeKit.Proofs.Pairing.Spelling
import HomeKit.Proofs.Tlv.RoundTrip

/-!
# A setup that succeeds

A controller whose user typed the setup code pairs with an accessory in three rounds, in each of
which it sends a request and takes the machine's answer (`SetupPair.round`). If the accessory is
ready, no round fails: each side reads what the other has written
(`ControllerSetup.takeM2_answerM2`, `PairSetup.proofCheck?_messageM3`,
`ControllerSetup.takeM4_answerM4`, `PairSetup.introduces_messageM5`,
`ControllerSetup.takeM6_responseM6`), and in the end the controller is the only one that is paired
and knows the accessory (`SetupPair.exchange_succeeds`).
-/

namespace HomeKit

variable {suite : CipherSuite}

/-! ## Identities on the wire -/

namespace PairSetup

/-- An identity as it stands in M5 and M6: an identifier, a public key and the signature of both. -/
def signedIdentity (suite : CipherSuite) (purpose : Purpose) (secret : Octets 64) (id : String)
    (key : SigningKey) : Tlv :=
  let publicKey := key.publicKey suite
  let signature := key.sign suite (signedInfo suite purpose secret (utf8 id) publicKey)
  .ofList [(.identifier, utf8 id), (.publicKey, publicKey.bytes), (.signature, signature.bytes)]

theorem decode_signedIdentity (suite : CipherSuite) (purpose : Purpose) (secret : Octets 64)
    (id : String) (key : SigningKey) :
    Tlv.decode (signedIdentity suite purpose secret id key).encode =
      .ok (signedIdentity suite purpose secret id key) :=
  Tlv.decode_encode_ofList (by simp)

/-- What is read of a signed identity, with a signature that is accepted. -/
theorem get?_signedIdentity (hverifies : suite.VerifiesSignatures) (purpose : Purpose)
    (secret : Octets 64) (id : String) (key : SigningKey) :
    let inner := signedIdentity suite purpose secret id key
    let publicKey := key.publicKey suite
    inner.get? .identifier = some (utf8 id) ∧ inner.get? .publicKey = some publicKey.bytes ∧
      ∃ signature, inner.get? .signature = some signature ∧
        suite.checkSignature publicKey (signedInfo suite purpose secret (utf8 id) publicKey)
          signature = .ok () := by
  intro inner publicKey
  refine ⟨?_, ?_, _, ?_, hverifies.checkSignature key _⟩
  · simp [inner, signedIdentity]
  · simp [inner, signedIdentity, publicKey]
  · simp [inner, signedIdentity, publicKey]

end PairSetup

/-! ## What the controller takes -/

namespace ControllerSetup

/-- A controller with a secret of its own, whose user typed a setup code. -/
def ofSecret (typed : String) (secret : Nat) : ControllerSetup where
  client := .new PairSetup.username (utf8 (SetupCode.typedPassword typed)) secret

variable {setup : ControllerSetup} {answer : Srp.Answer}

/-- An answer with the right number is read as it was written. -/
theorem parseResponse_encode {fields : List (TlvType × Bytes)} {number : UInt8}
    (htypes : (fields.map Prod.fst).IsChain (· ≠ ·))
    (herror : (Tlv.ofList fields).error? = none)
    (hstate : (Tlv.ofList fields).state? = some number) :
    parseResponse (Tlv.ofList fields).encode number = .ok (Tlv.ofList fields) := by
  unfold parseResponse
  rw [Tlv.decode_encode_ofList htypes]
  simp only [herror, hstate, if_true]

theorem takeM2_answerM2 {server : Srp.Server} (hstage : setup.stage = .m1Sent)
    (hanswer : setup.client.answer suite.hash server.salt server.publicKey = .ok answer) :
    setup.takeM2 suite (PairSetup.answerM2 server).encode =
      (.ok (), { setup with stage := .m2Received answer }) := by
  have hparse : parseResponse (PairSetup.answerM2 server).encode 2 =
      .ok (PairSetup.answerM2 server) := parseResponse_encode (by simp) rfl rfl
  have hsalt : (PairSetup.answerM2 server).require .salt = .ok server.salt.bytes :=
    Tlv.require_eq_ok_iff.2 (by simp [PairSetup.answerM2])
  have hkey : (PairSetup.answerM2 server).require .publicKey = .ok server.publicKey :=
    Tlv.require_eq_ok_iff.2 (by simp [PairSetup.answerM2])
  have hwidth : ¬ Srp.width < server.publicKey.length := by
    rw [Srp.Server.publicKey, Srp.pad, length_bigEndian]
    exact Nat.lt_irrefl _
  have hanswerM2 : setup.answerM2 suite (PairSetup.answerM2 server).encode = .ok answer := by
    unfold answerM2
    simp only [hparse, hsalt, hkey, hanswer, pairingPart, cryptoPart, bind, Except.bind,
      Octets.ofBytes?_bytes, pure, Except.pure, if_neg hwidth]
  unfold takeM2
  rw [hstage]
  simp only [hanswerM2, Except.map, settle]

theorem takeM4_answerM4 {verified : Srp.Verified} (hstage : setup.stage = .m3Sent answer)
    (hproof : verified.serverProof = answer.expectedServerProof) :
    setup.takeM4 (PairSetup.answerM4 verified).encode =
      (.ok (), { setup with stage := .m4Received answer }) := by
  have hparse : parseResponse (PairSetup.answerM4 verified).encode 4 =
      .ok (PairSetup.answerM4 verified) := parseResponse_encode (by simp) rfl rfl
  have hrequire : (PairSetup.answerM4 verified).require .proof = .ok verified.serverProof.bytes :=
    Tlv.require_eq_ok_iff.2 (by simp [PairSetup.answerM4])
  have haccepts : answer.accepts verified.serverProof.bytes = true := by
    rw [Srp.Answer.accepts, hproof, beq_self_eq_true]
  have hcheck : checkM4 answer (PairSetup.answerM4 verified).encode = .ok () := by
    unfold checkM4
    simp only [hparse, hrequire, haccepts, pairingPart, bind, Except.bind, if_true, pure,
      Except.pure]
  unfold takeM4
  rw [hstage]
  simp only [hcheck, Except.map, settle]

/-- The accessory that introduces itself in M6 is the one with the identity. -/
theorem introduced_responseM6 (hopens : suite.UndoesEncryption)
    (hverifies : suite.VerifiesSignatures) (answer : Srp.Answer) (identity : AccessoryIdentity) :
    introduced suite answer (PairSetup.responseM6 suite identity answer.key).encode =
      .ok ⟨identity.identifier, identity.key.publicKey suite⟩ := by
  let key := suite.deriveFor .pairSetup answer.key.bytes
  let inner := PairSetup.signedIdentity suite .accessorySign answer.key identity.identifier
    identity.key
  let box := suite.encryptNamed key PairSetup.nonceM6 inner.encode
  have hparse : parseResponse (PairSetup.responseM6 suite identity answer.key).encode 6 =
      .ok (PairSetup.responseM6 suite identity answer.key) := parseResponse_encode (by simp) rfl rfl
  have hbox : (PairSetup.responseM6 suite identity answer.key).require .encryptedData = .ok box :=
    Tlv.require_eq_ok_iff.2 (by
      simp [PairSetup.responseM6, box, inner, key, PairSetup.signedIdentity])
  have hopen : suite.decryptNamed key PairSetup.nonceM6 box = .ok inner.encode := hopens ..
  have hdecode : Tlv.decode inner.encode = .ok inner := PairSetup.decode_signedIdentity ..
  obtain ⟨hid, hkey, signature, hsignature, hcheck⟩ :=
    PairSetup.get?_signedIdentity hverifies .accessorySign answer.key identity.identifier
      identity.key
  rw [← Tlv.require_eq_ok_iff] at hid hkey hsignature
  have hpublic : publicKeyOfBytes (identity.key.publicKey suite).bytes =
      .ok (identity.key.publicKey suite) := PairSetup.publicKeyOfBytes_eq_ok_iff.2 rfl
  unfold introduced
  simp only [hparse, hbox, hopen, hdecode, hid, hkey, hsignature, hpublic, hcheck, text?_utf8,
    pairingPart, cryptoPart, parsePart, bind, Except.bind, pure, Except.pure, key, inner]

theorem takeM6_responseM6 (hopens : suite.UndoesEncryption) (hverifies : suite.VerifiesSignatures)
    (hstage : setup.stage = .m5Sent answer) (identity : AccessoryIdentity) :
    setup.takeM6 suite (PairSetup.responseM6 suite identity answer.key).encode =
      (.ok ⟨identity.identifier, identity.key.publicKey suite⟩,
        { setup with stage := .complete }) := by
  unfold takeM6
  rw [hstage]
  simp only [introduced_responseM6 hopens hverifies, Except.map, settle]

end ControllerSetup

/-! ## What the accessory takes -/

namespace PairSetup

/-- The controller that M5 introduces is the one with the identity. -/
theorem introduces_messageM5 (hopens : suite.UndoesEncryption)
    (hverifies : suite.VerifiesSignatures) (answer : Srp.Answer) (identity : ControllerIdentity) :
    Introduces suite answer.key (ControllerSetup.messageM5 suite answer identity)
      ⟨identity.id, identity.key.publicKey suite, .admin⟩ := by
  let key := suite.deriveFor .pairSetup answer.key.bytes
  let inner := signedIdentity suite .controllerSign answer.key identity.id identity.key
  obtain ⟨hid, hkey, signature, hsignature, hcheck⟩ :=
    get?_signedIdentity hverifies .controllerSign answer.key identity.id identity.key
  have hbox : (ControllerSetup.messageM5 suite answer identity).get? .encryptedData =
      some (suite.encryptNamed key nonceM5 inner.encode) := by
    simp [ControllerSetup.messageM5, inner, key, signedIdentity]
  exact ⟨_, inner.encode, inner, signature, hbox, hopens .., decode_signedIdentity .., hid, hkey,
    hsignature, hcheck, rfl⟩

/-- The proof of M3 is checked against the server that awaits it. -/
theorem proofCheck?_messageM3 (suite : CipherSuite) {machine : PairSetup} {server : Srp.Server}
    (hstage : machine.stage = .awaitingM3 server) (publicKey proof : Bytes) :
    machine.proofCheck? suite
        (Tlv.ofList [(.state, [3]), (.publicKey, publicKey), (.proof, proof)]).encode =
      some (server.verify suite.hash publicKey proof) := by
  refine proofCheck?_eq_some_iff.2
    ⟨_, server, Tlv.decode_encode_ofList (by simp), rfl, hstage, publicKey, proof, ?_, ?_, rfl⟩
  · simp
  · simp

end PairSetup

/-! ## Rounds -/

/-- The two sides of a setup, and what the machines of the accessory share. -/
structure SetupPair where
  setup : ControllerSetup
  machine : PairSetup
  shared : SetupShared

namespace SetupPair

/-- One round: the controller sends a request, the machine answers it and the controller takes the
answer. It fails if one of the controller's calls does. -/
def round {α : Type} (suite : CipherSuite)
    (send : ControllerSetup → Except Error Bytes × ControllerSetup)
    (take : ControllerSetup → Bytes → Except Error α × ControllerSetup) (pair : SetupPair) :
    Except Error (α × SetupPair) :=
  match send pair.setup with
  | (.error error, _) => .error error
  | (.ok request, setup) =>
    let ((response, machine), shared) :=
      (pair.machine.handle suite pair.shared.store.identity request).run pair.shared
    match take setup response with
    | (.error error, _) => .error error
    | (.ok taken, setup) => .ok (taken, { setup, machine, shared })

/-- The whole exchange, up to the first failure. -/
def exchange (suite : CipherSuite) (identity : ControllerIdentity) (pair : SetupPair) :
    Except Error (AccessoryInfo × SetupPair) := do
  let (_, pair) ← pair.round suite (·.sendM1) (·.takeM2 suite)
  let (_, pair) ← pair.round suite (·.sendM3) (·.takeM4)
  pair.round suite (·.sendM5 suite identity) (·.takeM6 suite)

variable {pair : SetupPair} {answer : Srp.Answer}

theorem round_eq_ok {α : Type} {send : ControllerSetup → Except Error Bytes × ControllerSetup}
    {take : ControllerSetup → Bytes → Except Error α × ControllerSetup} {request response : Bytes}
    {sent received : ControllerSetup} {machine : PairSetup} {shared : SetupShared} {taken : α}
    (hsend : send pair.setup = (.ok request, sent))
    (hhandle : (pair.machine.handle suite pair.shared.store.identity request).run pair.shared =
      ((response, machine), shared))
    (htake : take sent response = (.ok taken, received)) :
    pair.round suite send take = .ok (taken, ⟨received, machine, shared⟩) := by
  unfold round
  simp only [hsend, hhandle, htake]

/-- The first round: the controller gets a salt and a public value that it can answer. -/
theorem round_start (hsetup : pair.setup.stage = .initial)
    (hstart : pair.machine.CanStart pair.shared Tlv.pairSetupM1) {server : Srp.Server}
    (hserver : PairSetup.serverOf suite pair.machine.setupCode pair.shared.random = server)
    (hanswer : pair.setup.client.answer suite.hash server.salt server.publicKey = .ok answer) :
    pair.round suite (·.sendM1) (·.takeM2 suite) = .ok ((),
      { setup := { pair.setup with stage := .m2Received answer }
        machine := { pair.machine with stage := .awaitingM3 server }
        shared := pair.machine.started pair.shared }) := by
  have hsend : pair.setup.sendM1 =
      (.ok Tlv.pairSetupM1.encode, { pair.setup with stage := .m1Sent }) := by
    unfold ControllerSetup.sendM1
    rw [hsetup]
    rfl
  have hdecode : Tlv.decode Tlv.pairSetupM1.encode = .ok Tlv.pairSetupM1 :=
    Tlv.decode_encode_ofList (by simp)
  subst hserver
  exact round_eq_ok hsend (PairSetup.handle_start hdecode rfl hstart)
    (ControllerSetup.takeM2_answerM2 rfl hanswer)

/-- The second round: both sides prove that they know the setup code. -/
theorem round_prove (hsetup : pair.setup.stage = .m2Received answer) {server : Srp.Server}
    (hmachine : pair.machine.stage = .awaitingM3 server)
    (hverify : server.verify suite.hash pair.setup.client.publicKey answer.proof.bytes =
      .ok ⟨answer.key, answer.expectedServerProof⟩) :
    pair.round suite (·.sendM3) (·.takeM4) = .ok ((),
      { setup := { pair.setup with stage := .m4Received answer }
        machine := { pair.machine with stage := .awaitingM5 answer.key }
        shared := pair.shared }) := by
  have hsend : pair.setup.sendM3 = (.ok (Tlv.ofList [(.state, [3]),
      (.publicKey, pair.setup.client.publicKey), (.proof, answer.proof.bytes)]).encode,
      { pair.setup with stage := .m3Sent answer }) := by
    unfold ControllerSetup.sendM3
    rw [hsetup]
    rfl
  have hcheck := PairSetup.proofCheck?_messageM3 suite hmachine
    pair.setup.client.publicKey answer.proof.bytes
  rw [hverify] at hcheck
  exact round_eq_ok hsend (PairSetup.handle_proved hcheck)
    (ControllerSetup.takeM4_answerM4 rfl rfl)

/-- The third round: both sides introduce themselves, and the controller is paired. -/
theorem round_pair (pair : SetupPair) (hopens : suite.UndoesEncryption)
    (hverifies : suite.VerifiesSignatures)
    (identity : ControllerIdentity) (hsetup : pair.setup.stage = .m4Received answer)
    (hmachine : pair.machine.stage = .awaitingM5 answer.key)
    (hreliable : pair.shared.store.storage.Reliable)
    (hunpaired : pair.shared.store.isPaired = false) :
    let accessory := pair.shared.store.identity
    let added := pair.shared.store.add ⟨identity.id, identity.key.publicKey suite, .admin⟩
    pair.round suite (·.sendM5 suite identity) (·.takeM6 suite) =
      .ok (⟨accessory.identifier, accessory.key.publicKey suite⟩,
        { setup := { pair.setup with stage := .complete }
          machine := { pair.machine with stage := .complete }
          shared := { pair.shared with
            store := added.2
            attempts := pair.shared.attempts.release pair.machine.conn } }) := by
  intro accessory added
  have hsend : pair.setup.sendM5 suite identity =
      (.ok (ControllerSetup.messageM5 suite answer identity).encode,
        { pair.setup with stage := .m5Sent answer }) := by
    unfold ControllerSetup.sendM5
    rw [hsetup]
    rfl
  have hdecode : Tlv.decode (ControllerSetup.messageM5 suite answer identity).encode =
      .ok (ControllerSetup.messageM5 suite answer identity) := Tlv.decode_encode_ofList (by simp)
  have hadded : added.1 = .ok () := IdentityStore.add_of_not_isPaired hreliable hunpaired _
  exact round_eq_ok hsend
    (PairSetup.handle_pair hdecode rfl hmachine
      (PairSetup.introduces_messageM5 hopens hverifies answer identity) hadded)
    (ControllerSetup.takeM6_responseM6 hopens hverifies rfl accessory)

/-! ## The exchange -/

/-- A controller whose user typed the setup code answers the server of an exchange, which accepts
the proof, unless B or u is zero. -/
theorem ofSecret_agrees {typed : String} {setupCode : SetupCode}
    (htyped : SetupCode.parse typed = .ok setupCode) (random : Entropy) (secret : Nat)
    (hpublic : (PairSetup.serverOf suite setupCode random).publicValue % Srp.modulus ≠ 0)
    (hscrambler : Srp.scrambler suite.hash
      (ControllerSetup.ofSecret typed secret).client.publicValue
      (PairSetup.serverOf suite setupCode random).publicValue ≠ 0) :
    let client := (ControllerSetup.ofSecret typed secret).client
    let server := PairSetup.serverOf suite setupCode random
    ∃ answer, client.answer suite.hash server.salt server.publicKey = .ok answer ∧
      server.verify suite.hash client.publicKey answer.proof.bytes =
        .ok ⟨answer.key, answer.expectedServerProof⟩ := by
  have hclient : (ControllerSetup.ofSecret typed secret).client =
      .new PairSetup.username (utf8 setupCode.dashed) secret := by
    rw [ControllerSetup.ofSecret, SetupCode.typedPassword_of_parse htyped]
  rw [hclient] at hscrambler ⊢
  exact ⟨_, Srp.answer_eq_agreed hpublic hscrambler, Srp.verify_agreed hscrambler⟩

/-- Whoever types the setup code, in any spelling that is read as it, pairs with an accessory that
is ready: no controller is paired, its storage works, fewer than 100 proofs were refused, no other
connection runs pair-setup and the machine is not in an exchange. The exchange succeeds unless B or
u is zero; then the controller is the only one that is paired, as an admin, and it knows the
accessory. -/
theorem exchange_succeeds (suite : CipherSuite) (hopens : suite.UndoesEncryption)
    (hverifies : suite.VerifiesSignatures) (identity : ControllerIdentity) (typed : String)
    (secret : Nat) (machine : PairSetup) (shared : SetupShared)
    (htyped : SetupCode.parse typed = .ok machine.setupCode)
    (hidle : machine.isActive = false) (hunpaired : shared.store.isPaired = false)
    (hreliable : shared.store.storage.Reliable) (htries : shared.attempts.failed < 100)
    (hfree : ∀ owner, shared.attempts.owner = some owner → owner = machine.conn)
    (hpublic : (PairSetup.serverOf suite machine.setupCode shared.random).publicValue %
      Srp.modulus ≠ 0)
    (hscrambler : Srp.scrambler suite.hash
      (ControllerSetup.ofSecret typed secret).client.publicValue
      (PairSetup.serverOf suite machine.setupCode shared.random).publicValue ≠ 0) :
    let setup := ControllerSetup.ofSecret typed secret
    let accessory := shared.store.identity
    let controller : PairedController := ⟨identity.id, identity.key.publicKey suite, .admin⟩
    ∃ store, exchange suite identity { setup, machine, shared } =
        .ok (⟨accessory.identifier, accessory.key.publicKey suite⟩,
          { setup := { setup with stage := .complete }
            machine := { machine with stage := .complete }
            shared :=
              { store
                attempts := { shared.attempts with owner := none }
                random := ((shared.random.draw 16).2.draw 32).2 } }) ∧
      store.controllerList = [controller] ∧ store.controller? identity.id = some controller ∧
      store.identity = accessory := by
  intro setup accessory controller
  let server := PairSetup.serverOf suite machine.setupCode shared.random
  obtain ⟨answer, hanswer, hverify⟩ :=
    ofSecret_agrees htyped shared.random secret hpublic hscrambler
  have hstart : machine.CanStart shared Tlv.pairSetupM1 := by
    refine ⟨rfl, hunpaired, hidle, htries, ?_⟩
    cases howner : shared.attempts.owner with
    | none => rfl
    | some owner => simp [hfree owner howner]
  let challenged : SetupPair :=
    { setup := { setup with stage := .m2Received answer }
      machine := { machine with stage := .awaitingM3 server }
      shared := machine.started shared }
  let proved : SetupPair :=
    { setup := { setup with stage := .m4Received answer }
      machine := { machine with stage := .awaitingM5 answer.key }
      shared := machine.started shared }
  have hchallenged : round suite (·.sendM1) (·.takeM2 suite) { setup, machine, shared } =
      .ok ((), challenged) := round_start rfl hstart rfl hanswer
  have hproved : challenged.round suite (·.sendM3) (·.takeM4) = .ok ((), proved) :=
    round_prove rfl rfl hverify
  have hpaired := round_pair proved hopens hverifies identity rfl rfl hreliable hunpaired
  have hadded := IdentityStore.add_of_not_isPaired hreliable hunpaired controller
  obtain ⟨honly, hknown⟩ := IdentityStore.only_of_add hadded hunpaired
  have hreleased : (machine.started shared).attempts.release machine.conn =
      { shared.attempts with owner := none } := if_pos rfl
  refine ⟨(shared.store.add controller).2, ?_, honly, hknown, IdentityStore.add_identity ..⟩
  unfold exchange
  simp only [hchallenged, hproved, bind, Except.bind]
  rw [hpaired]
  simp only [proved, hreleased]
  rfl

/-- A setup code with blanks around it, and a machine that was through an exchange before. -/
theorem exchange_succeeds_typed :
    let identity : ControllerIdentity := ⟨"Controller", ⟨.replicate 32 3⟩⟩
    let start : SetupPair :=
      { setup := .ofSecret " 001-02-003 " 5
        machine := { conn := 1, setupCode := .default, stage := .complete }
        shared := { store := .unpaired, attempts := { failed := 99 }, random := .constant 7 } }
    ∃ info after, exchange .transparent identity start = .ok (info, after) ∧
      info.id = IdentityStore.unpaired.identity.identifier ∧
      after.shared.store.controllerList = [⟨"Controller", .replicate 32 3, .admin⟩] ∧
      after.machine.isComplete = true ∧ after.shared.attempts.owner = none := by
  obtain ⟨store, hexchange, honly, -, -⟩ := exchange_succeeds .transparent
    CipherSuite.transparent_undoesEncryption CipherSuite.transparent_verifiesSignatures
    ⟨"Controller", ⟨.replicate 32 3⟩⟩ " 001-02-003 " 5
    { conn := 1, setupCode := .default, stage := .complete }
    { store := .unpaired, attempts := { failed := 99 }, random := .constant 7 }
    rfl rfl rfl (fun _ _ => rfl) (by decide) nofun (by decide +kernel) (by decide +kernel)
  exact ⟨_, _, hexchange, rfl, honly, rfl, rfl⟩

end SetupPair

end HomeKit
