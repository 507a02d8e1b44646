import HomeKit.Proofs.Pairing.ControllerVerifyCalls

/-!
# The accessory of a session is the one that is known

The controller's side of pair-verify may be called in any order: failed calls can be tried again,
and M1 starts anew at any time. It gives out keys only if, since its last M1, it accepted an M2 that
the accessory of the known key had signed, and then sent M3 (`ControllerVerify.keys_authenticated`).
The keys are those of that M2's agreement with the ephemeral key of that M1.

The invariant says of each stage which calls brought the machine there (`Accounted`).
-/

namespace HomeKit.ControllerVerify

variable {suite : CipherSuite} {verify : ControllerVerify} {response : Bytes}
  {agreement : KeyAgreement}

/-! ## What is checked -/

/-- The message brings a public key that the ephemeral key agrees with, and an encrypted message
under the agreement's key with an identifier and a signature, by the accessory of the known key,
over both public keys around that identifier. -/
def Authenticates (suite : CipherSuite) (accessoryKey : Octets 32) (key : EphemeralKey)
    (message : Tlv) (agreement : KeyAgreement) : Prop :=
  ∃ box plaintext inner id signature,
    message.get? .publicKey = some agreement.peerKey.bytes ∧
    key.agree suite agreement.peerKey = .ok agreement ∧
    message.get? .encryptedData = some box ∧
    suite.decryptNamed (agreement.verifyKey suite) PairVerify.nonceM2 box = .ok plaintext ∧
    Tlv.decode plaintext = .ok inner ∧
    inner.get? .identifier = some id ∧
    inner.get? .signature = some signature ∧
    suite.checkSignature accessoryKey
      (agreement.peerKey.bytes ++ id ++ (key.publicKey suite).bytes) signature = .ok ()

theorem agree_localKey {key : EphemeralKey} {peerKey : Octets 32}
    (h : key.agree suite peerKey = .ok agreement) : agreement.localKey = key.publicKey suite := by
  unfold EphemeralKey.agree at h
  simp only at h
  split at h
  · cases h
  · cases h
    rfl

theorem checkM2_eq_ok_iff {key : EphemeralKey} {message : Tlv} :
    verify.checkM2 suite key message = .ok agreement ↔
      Authenticates suite verify.accessoryKey key message agreement := by
  unfold checkM2 Authenticates
  simp only [PairSetup.bind_eq_ok_iff, pairingPart_eq_ok_iff, cryptoPart_eq_ok_iff,
    parsePart_eq_ok_iff, Tlv.require_eq_ok_iff, PairSetup.publicKeyOfBytes_eq_ok_iff]
  constructor
  · rintro ⟨_, hkey, peerKey, rfl, found, hagree, box, hbox, plaintext, hopen, inner, hinner, id,
      hid, signature, hsignature, _, hcheck, hfound⟩
    cases hfound
    obtain rfl := PairVerify.agree_peerKey hagree
    rw [KeyAgreement.peerTranscript, agree_localKey hagree] at hcheck
    exact ⟨box, plaintext, inner, id, signature, hkey, hagree, hbox, hopen, hinner, hid, hsignature,
      hcheck⟩
  · rintro ⟨box, plaintext, inner, id, signature, hkey, hagree, hbox, hopen, hinner, hid,
      hsignature, hcheck⟩
    rw [← agree_localKey hagree] at hcheck
    exact ⟨_, hkey, _, rfl, agreement, hagree, box, hbox, plaintext, hopen, inner, hinner, id, hid,
      signature, hsignature, (), hcheck, rfl⟩

/-! ## What a call comes to -/

/-- A response is refused, which may use the ephemeral key up, or it is an M2 that authenticates the
accessory to the ephemeral key. -/
theorem takeM2_cases (suite : CipherSuite) (verify : ControllerVerify) (response : Bytes) :
    (∃ error after, verify.takeM2 suite response = (.error error, after) ∧
        (after = verify ∨ after = { verify with stage := .m1Sent none })) ∨
      ∃ key tlv agreement, verify.stage = .m1Sent (some key) ∧ Responds response 2 tlv ∧
        Authenticates suite verify.accessoryKey key tlv agreement ∧
        verify.takeM2 suite response =
          (.ok (), { verify with stage := .m2Received agreement }) := by
  by_cases hdue : verify.stage.phase = .m1Sent
  · unfold takeM2
    cases hstage : verify.stage with
    | m1Sent key =>
      cases hparse : parseResponse response 2 with
      | error error => exact Or.inl ⟨error, verify, rfl, Or.inl rfl⟩
      | ok tlv =>
        have hresponds := parseResponse_eq_ok_iff.1 hparse
        cases key with
        | none => exact Or.inl ⟨_, _, rfl, Or.inr rfl⟩
        | some key =>
          cases hcheck : verify.checkM2 suite key tlv with
          | error error =>
            refine Or.inl ⟨error, _, ?_, Or.inr rfl⟩
            simp only [hcheck]
          | ok agreement =>
            refine Or.inr ⟨key, tlv, agreement, rfl, hresponds, checkM2_eq_ok_iff.1 hcheck, ?_⟩
            simp only [hcheck]
    | _ => rw [hstage] at hdue; cases hdue
  · exact Or.inl ⟨_, verify, takeM2_of_ne hdue response, Or.inl rfl⟩

theorem sendM3_cases (suite : CipherSuite) (verify : ControllerVerify) :
    (∃ error, verify.sendM3 suite = (.error error, verify)) ∨
      ∃ agreement, verify.stage = .m2Received agreement ∧
        verify.sendM3 suite = (.ok (messageM3 suite verify.identity agreement).encode,
          { verify with stage := .m3Sent agreement }) := by
  unfold sendM3
  split
  · rename_i agreement hstage
    exact Or.inr ⟨agreement, hstage, rfl⟩
  · exact Or.inl ⟨_, rfl⟩

theorem takeM4_cases (suite : CipherSuite) (verify : ControllerVerify) (response : Bytes) :
    (∃ error, verify.takeM4 suite response = (.error error, verify)) ∨
      ∃ agreement tlv, verify.stage = .m3Sent agreement ∧ Responds response 4 tlv ∧
        verify.takeM4 suite response = (.ok (.forController suite agreement.shared.bytes),
          { verify with stage := .complete }) := by
  unfold takeM4
  split
  · rename_i agreement hstage
    cases hparse : parseResponse response 4 with
    | error error => exact Or.inl ⟨error, rfl⟩
    | ok tlv => exact Or.inr ⟨agreement, tlv, hstage, parseResponse_eq_ok_iff.1 hparse, rfl⟩
  · exact Or.inl ⟨_, rfl⟩

/-! ## Since the last M1 -/

/-- The call was made, and no M1 was sent after it; `property` holds of the calls before it. -/
def Since (history : List Call) (call : Call) (property : List Call → Prop) : Prop :=
  ∃ before after, history = before ++ call :: after ∧ .sendM1 ∉ after ∧ property before

section

variable {history : List Call} {next : Call} {property : List Call → Prop}

theorem Since.now (h : property history) : Since (history ++ [next]) next property :=
  ⟨history, [], rfl, List.not_mem_nil, h⟩

theorem Since.later {made : Call} (h : Since history made property) (hnext : next ≠ .sendM1) :
    Since (history ++ [next]) made property := by
  obtain ⟨before, after, rfl, hafter, hproperty⟩ := h
  refine ⟨before, after ++ [next], by simp, ?_, hproperty⟩
  rw [List.mem_append, List.mem_singleton, not_or]
  exact ⟨hafter, hnext.symm⟩

end

variable (suite : CipherSuite) (start : ControllerVerify × Entropy)

/-- The machine and the randomness after some calls. -/
def callAll (history : List Call) : ControllerVerify × Entropy :=
  Calls.after (call suite) start history

/-- The last M1 was sent with the ephemeral key. -/
def Started (history : List Call) (key : EphemeralKey) : Prop :=
  Since history .sendM1 fun before =>
    key = ((callAll suite start before).1.takeKey (callAll suite start before).2).1

/-- A response was accepted since the last M1: an M2 that authenticates the accessory to the
ephemeral key of that M1. -/
def Authenticated (history : List Call) (agreement : KeyAgreement) : Prop :=
  ∃ response, Since history (.takeM2 response) fun before =>
    (call suite (callAll suite start before) (.takeM2 response)).1 = .ok .accepted ∧
      ∃ key tlv, Started suite start before key ∧ Responds response 2 tlv ∧
        Authenticates suite start.1.accessoryKey key tlv agreement

/-- M3 was sent, since the last M1 and after an M2 that authenticates the accessory. -/
def Answered (history : List Call) (agreement : KeyAgreement) : Prop :=
  Since history .sendM3 fun before =>
    (∃ message, (call suite (callAll suite start before) .sendM3).1 = .ok (.message message)) ∧
      Authenticated suite start before agreement

/-- The calls that brought the machine to its stage. -/
def Accounted (history : List Call) : ControllerVerifyStage → Prop
  | .m1Sent (some key) => Started suite start history key
  | .m2Received agreement => Authenticated suite start history agreement
  | .m3Sent agreement => Answered suite start history agreement
  | .initial | .m1Sent none | .complete => True

variable {suite start} {history : List Call} {next : Call}

theorem Started.later {key : EphemeralKey} (h : Started suite start history key)
    (hnext : next ≠ .sendM1) : Started suite start (history ++ [next]) key :=
  Since.later h hnext

theorem Authenticated.later (h : Authenticated suite start history agreement)
    (hnext : next ≠ .sendM1) : Authenticated suite start (history ++ [next]) agreement := by
  obtain ⟨response, h⟩ := h
  exact ⟨response, h.later hnext⟩

theorem Accounted.later {stage : ControllerVerifyStage} (h : Accounted suite start history stage)
    (hnext : next ≠ .sendM1) : Accounted suite start (history ++ [next]) stage := by
  cases stage with
  | initial => trivial
  | m1Sent key =>
    cases key with
    | none => trivial
    | some key => exact Started.later h hnext
  | m2Received agreement => exact Authenticated.later h hnext
  | m3Sent agreement => exact Since.later h hnext
  | complete => trivial

theorem callAll_concat (suite : CipherSuite) (start : ControllerVerify × Entropy)
    (history : List Call) (last : Call) :
    callAll suite start (history ++ [last]) = (call suite (callAll suite start history) last).2 :=
  Calls.after_concat start history last

/-- The accessory that the controller knows stays the same. -/
theorem call_accessoryKey (suite : CipherSuite) (state : ControllerVerify × Entropy) (next : Call) :
    (call suite state next).2.1.accessoryKey = state.1.accessoryKey := by
  unfold call
  cases next with
  | sendM1 => simp only [sendM1_eq]
  | takeM2 response =>
    rcases state.1.takeM2_cases suite response with
      ⟨error, verify, htaken, rfl | rfl⟩ | ⟨_, _, _, -, -, -, htaken⟩
    · simp only [htaken]
    · simp only [htaken]
    · simp only [htaken]
  | sendM3 =>
    rcases state.1.sendM3_cases suite with ⟨error, hsent⟩ | ⟨_, -, hsent⟩
    · simp only [hsent]
    · simp only [hsent]
  | takeM4 response =>
    rcases state.1.takeM4_cases suite response with ⟨error, htaken⟩ | ⟨_, _, -, -, htaken⟩
    · simp only [htaken]
    · simp only [htaken]

theorem callAll_accessoryKey (suite : CipherSuite) (start : ControllerVerify × Entropy)
    (history : List Call) :
    (callAll suite start history).1.accessoryKey = start.1.accessoryKey := by
  induction history using List.reverseRecOn with
  | nil => rfl
  | append_singleton history next ih =>
    rw [callAll_concat, call_accessoryKey, ih]

/-- A call leaves the machine at a stage that is accounted for. -/
theorem Accounted.call (h : Accounted suite start history (callAll suite start history).1.stage)
    (next : Call) :
    Accounted suite start (history ++ [next])
      (callAll suite start (history ++ [next])).1.stage := by
  have hnow := congrArg (·.1.stage) (callAll_concat suite start history next)
  have hlater : next ≠ .sendM1 → _ := h.later
  rw [hnow]
  unfold ControllerVerify.call
  cases next with
  | sendM1 =>
    simp only [sendM1_eq]
    exact Since.now rfl
  | takeM2 response =>
    rcases (callAll suite start history).1.takeM2_cases suite response with
      ⟨error, verify, htaken, rfl | rfl⟩ |
      ⟨key, tlv, agreement, hstage, hresponds, hauthentic, htaken⟩
    · simp only [htaken]
      exact hlater nofun
    · simp only [htaken]
      trivial
    · simp only [htaken]
      rw [hstage] at h
      rw [callAll_accessoryKey] at hauthentic
      refine ⟨response, Since.now ⟨?_, key, tlv, h, hresponds, hauthentic⟩⟩
      rw [ControllerVerify.call, htaken]
      rfl
  | sendM3 =>
    rcases (callAll suite start history).1.sendM3_cases suite with
      ⟨error, hsent⟩ | ⟨agreement, hstage, hsent⟩
    · simp only [hsent]
      exact hlater nofun
    · have hmessage := congrArg (·.1.map Outcome.message) hsent
      simp only [hsent]
      rw [hstage] at h
      exact Since.now ⟨⟨_, hmessage⟩, h⟩
  | takeM4 response =>
    rcases (callAll suite start history).1.takeM4_cases suite response with
      ⟨error, htaken⟩ | ⟨agreement, tlv, -, -, htaken⟩
    · simp only [htaken]
      exact hlater nofun
    · simp only [htaken]
      trivial

/-- Whatever is called, the machine's stage is accounted for. -/
theorem callAll_accounted (suite : CipherSuite) (start : ControllerVerify × Entropy)
    (hstart : start.1.stage = .initial) (history : List Call) :
    Accounted suite start history (callAll suite start history).1.stage := by
  induction history using List.reverseRecOn with
  | nil =>
    rw [callAll, Calls.after, List.foldl_nil, hstart]
    trivial
  | append_singleton history next ih => exact ih.call next

/-! ## Keys -/

/-- Whatever a controller's side was called with before, it gives out keys only for an M4, and only
if since its last M1 an M2 was accepted, in which the accessory of the known key signed both public
keys, and M3 was sent after that; the keys are those of the secret agreed on there. What earlier
exchanges have left in memory makes no difference to any call. -/
theorem keys_authenticated (suite : CipherSuite) (identity : ControllerIdentity)
    (accessoryKey : Octets 32) (fixedKey : Option EphemeralKey) (random : Entropy) :
    let given : ControllerVerify := { identity, accessoryKey, fixedKey }
    (∀ history response keys,
      (call suite (callAll suite (given, random) history) (.takeM4 response)).1 = .ok (.keys keys) →
      (∃ tlv, Responds response 4 tlv) ∧
      ∃ agreement, Answered suite (given, random) history agreement ∧
        keys = .forController suite agreement.shared.bytes) ∧
    ∀ calls, Calls.outcomes (ControllerVerifyMemory.call suite) ({ given }, random) calls =
      Calls.outcomes (call suite) (given, random) calls := by
  intro given
  refine ⟨?_, ?_⟩
  · intro history response keys hkeys
    have haccounted := callAll_accounted suite (given, random) rfl history
    rcases (callAll suite (given, random) history).1.takeM4_cases suite response with
      ⟨error, htaken⟩ | ⟨agreement, tlv, hstage, hresponds, htaken⟩
    · rw [call, htaken] at hkeys
      cases hkeys
    · rw [hstage] at haccounted
      rw [call, htaken] at hkeys
      cases hkeys
      exact ⟨⟨tlv, hresponds⟩, agreement, haccounted, rfl⟩
  · exact ControllerVerifyMemory.outcomes_eq
      (ControllerVerifyMemory.remembers_given suite given rfl) random

/-- A controller that knows an accessory by a key of fives. -/
def fivesGiven : ControllerVerify where
  identity := ⟨"c", ⟨.replicate 32 7⟩⟩
  accessoryKey := .replicate 32 5

/-- An M2 with a public key of nines, signed by a key of the given bytes. -/
def ninesM2 (signer : UInt8) : Bytes :=
  (Tlv.ofList [(.state, [2]), (.publicKey, List.replicate 32 9), (.encryptedData,
    (Tlv.ofList [(.identifier, [0x61]), (.signature, List.replicate 64 signer)]).encode ++
      CipherSuite.emptyTag)]).encode

/-- The accessory of sixes is refused, and the accessory of fives is accepted after a new M1; its M4
is first taken for an M2. -/
def retriedCalls : List Call :=
  [.sendM1, .takeM2 (ninesM2 6), .takeM2 (ninesM2 5), .sendM1, .takeM4 [], .takeM2 (ninesM2 5),
    .sendM3, .takeM2 (Tlv.ofList [(.state, [4])]).encode]

theorem keys_authenticated_retried :
    let accepted := (Tlv.ofList [(.state, [4])]).encode
    let keys := SessionKeys.forController .transparent (List.replicate 32 1)
    (call .transparent (callAll .transparent (fivesGiven, .constant 7) retriedCalls)
        (.takeM4 accepted)).1 = .ok (.keys keys) ∧
      ∃ agreement, Answered .transparent (fivesGiven, .constant 7) retriedCalls agreement ∧
        keys = .forController .transparent agreement.shared.bytes := by
  intro accepted keys
  have hkeys : (call .transparent (callAll .transparent (fivesGiven, .constant 7) retriedCalls)
      (.takeM4 accepted)).1 = .ok (.keys keys) := by
    decide +kernel
  exact ⟨hkeys, ((keys_authenticated .transparent fivesGiven.identity fivesGiven.accessoryKey none
    (.constant 7)).1 retriedCalls accepted keys hkeys).2⟩

end HomeKit.ControllerVerify
