import HomeKit.Proofs.Pairing.SetupErrors
import HomeKit.Proofs.Pairing.Verify

/-!
# Refusals that look alike

Many things can be wrong with an M3. That of pair-verify may be too short, or not authentic, or hold
a message that cannot be read or lacks a field, or name a stranger, or bring a wrong signature; that
of pair-setup may have a public value that no proof goes with, or a proof that is too long or too
short or wrong. Each is found by a check of its own, and none of them can be told from the others
(`refusals_alike`): the answers are the same bytes, the machines have given up, and in pair-setup
one more proof is counted.
-/

namespace HomeKit

/-- The answer to an M3 that is refused. -/
def refusalM4 : Bytes :=
  (Tlv.errorResponse 4 .authentication).encode

example : refusalM4 = [6, 1, 4, 7, 1, 2] := by decide

/-! ## Pair-verify -/

namespace PairVerify

variable {suite : CipherSuite} {store : IdentityStore} {machine : PairVerify} {request : Bytes}
  {random : Entropy}

/-- Whatever is wrong with the message of an M3, only that something is comes out. -/
theorem accept_error {agreement : KeyAgreement} {tlv : Tlv} {error : PairingError}
    (hbox : tlv.contains .encryptedData = true)
    (h : accept suite store agreement tlv = .error error) : error = .authenticationFailed := by
  obtain ⟨box, hbox⟩ := Option.isSome_iff_exists.1 hbox
  unfold accept accept.failed at h
  simp only [bind, Except.bind, Tlv.require_eq_ok_iff.2 hbox] at h
  cases hopened : (suite.decryptNamed (agreement.verifyKey suite) nonceM3 box).toOption with
  | none =>
    simp only [hopened] at h
    cases h
    rfl
  | some decrypted =>
    simp only [hopened] at h
    cases hread : (Tlv.decode decrypted).toOption with
    | none =>
      simp only [hread] at h
      cases h
      rfl
    | some inner =>
      simp only [hread] at h
      cases hnamed : (inner.get? .identifier).bind text? with
      | none =>
        simp only [hnamed] at h
        cases h
        rfl
      | some id =>
        simp only [hnamed] at h
        cases hsigned : inner.get? .signature with
        | none =>
          simp only [hsigned] at h
          cases h
          rfl
        | some signature =>
          simp only [hsigned] at h
          cases hpaired : store.controller? id with
          | none =>
            simp only [hpaired] at h
            cases h
            rfl
          | some controller =>
            simp only [hpaired] at h
            cases hgenuine : (suite.checkSignature controller.publicKey
                (agreement.peerTranscript (utf8 id)) signature).toOption with
            | none =>
              simp only [hgenuine] at h
              cases h
              rfl
            | some genuine =>
              simp only [hgenuine] at h
              cases h

/-- An M3 with a message that verifies nobody. -/
structure RefusesM3 (suite : CipherSuite) (store : IdentityStore) (machine : PairVerify)
    (request : Bytes) (random : Entropy) : Prop where
  isPending : machine.isPending = true
  message : ∃ tlv, Tlv.decode request = .ok tlv ∧ tlv.state? = some 3 ∧
    tlv.contains .encryptedData = true
  notVerified : (machine.handle suite store request random).1.verified = none

theorem RefusesM3.handle_eq (h : RefusesM3 suite store machine request random) :
    machine.handle suite store request random =
      ({ body := refusalM4 }, { machine with pending := none }, random) := by
  obtain ⟨tlv, hdecode, hstate, hbox⟩ := h.message
  obtain ⟨agreement, hpending⟩ := Option.isSome_iff_exists.1 h.isPending
  have hnot := h.notVerified
  cases haccept : accept suite store agreement tlv with
  | ok verified =>
    rw [handle_verified_iff.2 ⟨tlv, agreement, hdecode, hstate, hpending, haccept⟩] at hnot
    cases hnot
  | error error =>
    cases accept_error hbox haccept
    unfold handle
    simp only [hdecode, hstate, Option.getD_some, handleM3, hpending, haccept]
    rfl

end PairVerify

/-! ## Pair-setup -/

namespace PairSetup

variable {suite : CipherSuite} {identity : AccessoryIdentity} {machine : PairSetup}
  {shared : SetupShared} {request : Bytes}

theorem exists_server_of_dueMessage (h : machine.dueMessage = 3) :
    ∃ server, machine.stage = .awaitingM3 server := by
  unfold dueMessage at h
  split at h
  · cases h
  · cases h
  · exact ⟨_, by assumption⟩
  · cases h

/-- An M3 with a public value and a proof that is answered with an error. -/
structure RefusesM3 (suite : CipherSuite) (identity : AccessoryIdentity) (machine : PairSetup)
    (shared : SetupShared) (request : Bytes) : Prop where
  due : machine.dueMessage = 3
  proof : ∃ tlv, Tlv.decode request = .ok tlv ∧ tlv.state? = some 3 ∧
    tlv.contains .publicKey = true ∧ tlv.contains .proof = true
  error : ∃ response,
    Tlv.decode ((machine.handle suite identity request).run shared).1.1 = .ok response ∧
      response.contains .error = true

theorem RefusesM3.handle_eq (h : RefusesM3 suite identity machine shared request) :
    (machine.handle suite identity request).run shared =
      ((refusalM4, { machine with stage := .awaitingM1 }),
        { shared with attempts := shared.attempts.recordFailure.release machine.conn }) := by
  obtain ⟨server, hstage⟩ := exists_server_of_dueMessage h.due
  obtain ⟨tlv, hdecode, hstate, hkey, hproof⟩ := h.proof
  obtain ⟨publicKey, hkey⟩ := Option.isSome_iff_exists.1 hkey
  obtain ⟨proof, hproof⟩ := Option.isSome_iff_exists.1 hproof
  obtain ⟨response, hresponse, herror⟩ := h.error
  have hcheck : machine.proofCheck? suite request =
      some (server.verify suite.hash publicKey proof) :=
    proofCheck?_eq_some_iff.2
      ⟨tlv, server, hdecode, hstate, hstage, publicKey, proof, hkey, hproof, rfl⟩
  cases hverify : server.verify suite.hash publicKey proof with
  | error error =>
    rw [hverify] at hcheck
    exact handle_refused hcheck
  | ok verified =>
    -- the answer to a proof that is accepted has no error
    rw [hverify] at hcheck
    have hdecoded : Tlv.decode (answerM4 verified).encode = .ok (answerM4 verified) :=
      Tlv.decode_encode_ofList (by simp)
    rw [handle_proved hcheck] at hresponse
    cases hdecoded.symm.trans hresponse
    cases herror

end PairSetup

/-! ## Two requests -/

/-- A request to a pair-verify machine. -/
structure VerifyTry where
  store : IdentityStore
  machine : PairVerify
  request : Bytes
  random : Entropy

namespace VerifyTry

variable (suite : CipherSuite) (attempt : VerifyTry)

def result : VerifyResponse × PairVerify × Entropy :=
  attempt.machine.handle suite attempt.store attempt.request attempt.random

def Refused : Prop :=
  PairVerify.RefusesM3 suite attempt.store attempt.machine attempt.request attempt.random

end VerifyTry

/-- A request to a pair-setup machine. -/
structure SetupTry where
  identity : AccessoryIdentity
  machine : PairSetup
  shared : SetupShared
  request : Bytes

namespace SetupTry

variable (suite : CipherSuite) (attempt : SetupTry)

def result : (Bytes × PairSetup) × SetupShared :=
  (attempt.machine.handle suite attempt.identity attempt.request).run attempt.shared

def Refused : Prop :=
  PairSetup.RefusesM3 suite attempt.identity attempt.machine attempt.shared attempt.request

/-- The machine is like a new one, which does not own the slot, and one more proof is counted as
refused. -/
structure GivesUp : Prop where
  machine : (attempt.result suite).1.2 =
    { conn := attempt.machine.conn, setupCode := attempt.machine.setupCode }
  store : (attempt.result suite).2.store = attempt.shared.store
  owner : (attempt.result suite).2.attempts.owner ≠ some attempt.machine.conn
  failed : attempt.shared.attempts.failed < SetupAttempts.failedLimit →
    (attempt.result suite).2.attempts.failed = attempt.shared.attempts.failed + 1

theorem Refused.givesUp {suite : CipherSuite} {attempt : SetupTry} (h : attempt.Refused suite) :
    attempt.GivesUp suite := by
  have hresult : attempt.result suite = _ := h.handle_eq
  refine ⟨?_, ?_, ?_, fun hroom => ?_⟩
  · rw [hresult]
  · rw [hresult]
  · rw [hresult]
    exact SetupAttempts.release_owner_ne _ _
  · rw [hresult, SetupSystem.release_failed]
    exact Nat.min_eq_left hroom

end SetupTry

/-- Any two M3s that are refused are answered alike, whatever the stores, the machines and the
requests are, and whichever checks have failed; with that both machines have given up. In pair-setup
both refusals are counted: the count would only stop growing at a limit, and it never gets there. -/
theorem refusals_alike (suite : CipherSuite) :
    (∀ first second : VerifyTry, first.Refused suite → second.Refused suite →
      (first.result suite).1 = (second.result suite).1 ∧
        (first.result suite).1.body = refusalM4 ∧
        (first.result suite).2.1.isPending = false ∧
        (second.result suite).2.1.isPending = false) ∧
    (∀ first second : SetupTry, first.Refused suite → second.Refused suite →
      (first.result suite).1.1 = (second.result suite).1.1 ∧
        (first.result suite).1.1 = refusalM4 ∧
        first.GivesUp suite ∧ second.GivesUp suite) ∧
    ∀ setupCode store random events,
      ((SetupHost.start setupCode store random).run suite events).shared.attempts.failed <
        SetupAttempts.failedLimit := by
  refine ⟨fun first second hfirst hsecond => ?_, fun first second hfirst hsecond => ?_,
    fun setupCode store random events => ?_⟩
  · have hresult : first.result suite = _ := hfirst.handle_eq
    have hother : second.result suite = _ := hsecond.handle_eq
    rw [hresult, hother]
    exact ⟨rfl, rfl, rfl, rfl⟩
  · have hresult : first.result suite = _ := hfirst.handle_eq
    have hother : second.result suite = _ := hsecond.handle_eq
    refine ⟨?_, ?_, hfirst.givesUp, hsecond.givesUp⟩
    · rw [hresult, hother]
    · rw [hresult]
  · have hlimit := SetupHost.run_withinLimit
      (SetupHost.start_orderly suite setupCode store random) ⟨Nat.zero_le _, nofun⟩ events
    exact Nat.lt_of_le_of_lt hlimit.failed_le (by decide)

/-- An M3 of pair-verify with a message that is too short, and one of a controller that is not
paired; an M3 of pair-setup with the public value zero, and one with a proof that is too short. -/
theorem refusals_alike_short :
    let verifying := (PairVerify.callAll .transparent (PairVerify.fresh none (.constant 7))
      [PairVerify.ninesCall]).1
    let verify (box : Bytes) : VerifyTry :=
      { store := .withController PairVerify.sevensController
        machine := verifying
        request := (Tlv.ofList [(.state, [3]), (.encryptedData, box)]).encode
        random := .constant 7 }
    let stranger :=
      (Tlv.ofList [(.identifier, [0x64]), (.signature, List.replicate 64 7)]).encode ++
        CipherSuite.emptyTag
    let started := (SetupSystem.fresh .default .unpaired (.constant 7)).step .transparent
      (.request 1 Tlv.pairSetupM1.encode)
    let setup (publicKey : Bytes) : SetupTry :=
      { identity := started.shared.store.identity
        machine := started.machines 1
        shared := started.shared
        request := (Tlv.ofList [(.state, [3]), (.publicKey, publicKey), (.proof, [1])]).encode }
    ((verify []).result .transparent).1 = ((verify stranger).result .transparent).1 ∧
      ((setup [0]).result .transparent).1.1 = ((setup [2]).result .transparent).1.1 ∧
      ((setup [0]).result .transparent).2.attempts.failed = 1 ∧
      ((setup [2]).result .transparent).2.attempts.failed = 1 := by
  intro verifying verify stranger started setup
  obtain ⟨hverify, hsetup, -⟩ := refusals_alike .transparent
  have hrefused : ∀ box, box = [] ∨ box = stranger → (verify box).Refused .transparent := by
    rintro box (rfl | rfl)
    · exact ⟨by decide +kernel, ⟨_, Tlv.decode_encode_ofList (by simp), rfl, rfl⟩,
        by decide +kernel⟩
    · exact ⟨by decide +kernel, ⟨_, Tlv.decode_encode_ofList (by simp), rfl, rfl⟩,
        by decide +kernel⟩
  have hwrong : ∀ publicKey, publicKey = [0] ∨ publicKey = [2] →
      (setup publicKey).Refused .transparent := by
    rintro publicKey (rfl | rfl)
    · exact ⟨by decide +kernel, ⟨_, Tlv.decode_encode_ofList (by simp), rfl, rfl, rfl⟩,
        .errorResponse 4 .authentication, by decide +kernel, rfl⟩
    · exact ⟨by decide +kernel, ⟨_, Tlv.decode_encode_ofList (by simp), rfl, rfl, rfl⟩,
        .errorResponse 4 .authentication, by decide +kernel, rfl⟩
  obtain ⟨hsame, -⟩ := hverify _ _ (hrefused [] (.inl rfl)) (hrefused stranger (.inr rfl))
  obtain ⟨hanswer, -, hfirst, hsecond⟩ :=
    hsetup _ _ (hwrong [0] (.inl rfl)) (hwrong [2] (.inr rfl))
  exact ⟨hsame, hanswer, hfirst.failed (by decide +kernel), hsecond.failed (by decide +kernel)⟩

end HomeKit
